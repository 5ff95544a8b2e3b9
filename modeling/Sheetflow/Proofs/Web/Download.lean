import Sheetflow.Proofs.Web.Answer
import Sheetflow.Proofs.Web.Serving

/-!
# Downloads

The state of a completed job carries a link, and whoever asks for the link gets the output of this job
until the second at which the link expires, and is refused from then on
(`Transforms.download_of_completed`).  This is so whatever happens meanwhile, with one condition: the
name of the output is sent in a header, and a header has room for characters of one byte only.  A job
made of a file whose name has others is completed, but its output cannot be downloaded
(`Transforms.download_fails_beyond_bytes`).
-/

namespace Sheetflow

open Service

/-! ### Names in headers -/

namespace Outputs

/-- The last part of a reference is the name of the output. -/
theorem base_refOf (org job name : String) (c : Configuration) :
    FileName.base (refOf org job (Submission.outputName c name)) = Submission.outputName c name := by
  have hpart : FileName.IsPart (Submission.outputName c name).toList :=
    FileName.isPart_ofOutput name c.output.delimiter
  have hbase : FileName.base (Submission.outputName c name) = Submission.outputName c name := by
    rw [FileName.base, hpart.baseChars, String.ofList_toList]
  have htext : (refOf org job (Submission.outputName c name)).toList =
      (org ++ "/" ++ job).toList ++ '/' :: (Submission.outputName c name).toList := by
    rw [refOf, hbase]
    simp [String.toList_append]
  rw [FileName.base, htext, FileName.baseChars_append_slash hpart, String.ofList_toList]

theorem refOf_ne_empty (org job name : String) : refOf org job name ≠ "" := by
  intro h
  have hslash : '/' ∈ (refOf org job name).toList := by
    simp [refOf, String.toList_append]
  rw [h] at hslash
  cases hslash

end Outputs

namespace Web

/-- The name of an output can be sent if the stem of the file's name can. -/
theorem Transforms.isSendable_outputName (c : Configuration) (name : String) :
    isSendable (Submission.outputName c name) = isSendable (FileName.stem name) := by
  have hending : ("_transformed." ++ (if c.output.delimiter = "\t" then "tsv" else "csv")).toList.all
      (fun c => c.toNat < 256) = true := by
    split <;> decide
  rw [isSendable, isSendable, Submission.outputName, FileName.toList_ofOutput, List.all_append, hending,
    Bool.and_true]
  split
  · rename_i hstem
    rw [hstem]
    decide
  · rfl

/-! ### Paths of requests -/

namespace Endpoint

theorem segments_api {kind x : String} (hkind : '/' ∉ kind.toList) (hx : '/' ∉ x.toList) :
    segments ("/api/" ++ kind ++ "/" ++ x) = ["", "api", kind, x] := by
  have htext : ("/api/" ++ kind ++ "/" ++ x).toList =
      [] ++ '/' :: ("api".toList ++ '/' :: (kind.toList ++ '/' :: x.toList)) := by
    simp [String.toList_append]
  rw [segments, htext, FileName.split_append_slash, FileName.split_append_slash,
    FileName.split_append_slash, FileName.split_of_notMem hkind, FileName.split_of_notMem hx]
  simp only [List.map_append, List.map_cons, List.map_nil, String.ofList_toList]
  rfl

/-- The endpoint of a path with two parts below the root. -/
theorem all_api {kind x : String} {e : Endpoint} (hkind : '/' ∉ kind.toList) (hx : '/' ∉ x.toList)
    (hbelow : below [kind, x] = [("GET", e)]) :
    all ("/api/" ++ kind ++ "/" ++ x) = [("GET", e)] := by
  have hpath : ofPath ("/api/" ++ kind ++ "/" ++ x) = [("GET", e)] := by
    rw [ofPath, segments_api hkind hx]
    exact hbelow
  rw [all, hpath]

theorem all_jobs {id : String} (hid : FileName.IsPart id.toList) :
    all ("/api/jobs/" ++ id) = [("GET", .getJob id)] := by
  have hne : id ≠ "" := fun h => hid.ne_nil (by rw [h]; rfl)
  have hbelow : below ["jobs", id] = [("GET", .getJob id)] := if_neg hne
  rw [show "/api/jobs/" ++ id = "/api/" ++ "jobs" ++ "/" ++ id from rfl]
  exact all_api (by decide) hid.noSlash hbelow

theorem all_downloads {token : String} (htoken : '/' ∉ token.toList) (hne : token ≠ "") :
    all ("/api/downloads/" ++ token) = [("GET", .download token)] := by
  have hbelow : below ["downloads", token] = [("GET", .download token)] := if_neg hne
  rw [show "/api/downloads/" ++ token = "/api/" ++ "downloads" ++ "/" ++ token from rfl]
  exact all_api (by decide) htoken hbelow

end Endpoint

namespace Transforms
variable {w : World} {r : Request} {org id ref : String} {j : Job} {bs : Bytes} {p : Path}

/-! ### Links of jobs -/

/-- A request for the state of a job, for an organization whose id is valid. -/
structure AsksFor (r : Request) (org id : String) : Prop where
  method : r.method = "GET"
  path : r.path = "/api/jobs/" ++ id
  accepted : accept r (.ok ()) = .ok (org, ())

/-- A job is looked up if the store is there. -/
theorem exec_find? (hget : (World.countCall .get w.faults).2 = none)
    (hj : w.store.jobs.get? id = some j) :
    exec (Jobs.find? id (some j.organization)) w = ((w.perform (.getJob id)).1, .ok (some j)) := by
  have hreply : (w.perform (.getJob id)).2 = .ok (some j) := by
    rw [World.perform, World.attempt]
    simp only [hget]
    exact congrArg Except.ok hj
  have hfound : @exec (Option Job) (command (.getJob id)) w =
      ((w.perform (.getJob id)).1, .ok (some j)) :=
    (exec_command (.getJob id) w).trans (by rw [hreply]; rfl)
  unfold Jobs.find?
  rw [exec_bind_of_ok hfound, exec_pure]
  simp [Option.filter]

/-- **The state of a completed job carries a link to its output.** -/
theorem respond_getJob [Host] (hr : AsksFor r j.organization id) (hid : FileName.IsPart id.toList)
    (hj : w.store.jobs.get? id = some j) (hstatus : j.status = .completed)
    (href : j.outputRef = some ref) (hne : ref ≠ "")
    (hget : (World.countCall .get w.faults).2 = none) (settings : Settings) :
    (respond settings r).run w = ((w.perform (.getJob id)).1,
      .json 200 (jobValue j (some (Outputs.linkAt settings ref settings.asyncLifetime w.time)))) := by
  have hw : (w.perform (.getJob id)).1.time = w.time :=
    World.attempt_induction (Q := fun v => v.time = w.time) w .get (fun _ _ => rfl) fun _ _ => rfl
  have hlink : exec (jobLink settings j) (w.perform (.getJob id)).1 = ((w.perform (.getJob id)).1,
      .ok (some (Outputs.linkAt settings ref settings.asyncLifetime w.time))) := by
    unfold jobLink
    rw [href]
    dsimp only
    rw [if_pos ⟨hstatus, hne⟩, exec_bind_of_ok (Outputs.exec_link settings ref _ _), hw, exec_pure]
  refine run_respond [("GET", .getJob id)] (e := .getJob id) ?_ ?_ ?_
  · rw [hr.path, Endpoint.all_jobs hid]
  · rw [hr.method]
    rfl
  · show exec (getJob settings r id) w = _
    unfold getJob
    rw [hr.accepted]
    dsimp only
    rw [exec_bind_of_ok (exec_find? hget hj)]
    dsimp only
    unfold showJob
    rw [exec_bind_of_ok (exec_bind_of_ok hlink _)]
    rfl

/-! ### Downloads -/

/-- A request for what a token stands for. -/
structure Downloads (r : Request) (token : String) : Prop where
  method : r.method = "GET"
  path : r.path = "/api/downloads/" ++ token

/-- The response to a token of a link: the file, until the link expires. -/
theorem respond_download [Host] {token : String} {t : DateTime} {lifetime : Int}
    {settings : Settings}
    (htoken : token = Outputs.tokenAt settings ref lifetime t) (hr : Downloads r token)
    (h : Outputs.Leads w.files ref bs p)
    (hrange : DateTime.InRange (t.toInstant + lifetime * microsPerSecond))
    (hclock : DateTime.first ≤ w.clock) :
    (respond settings r).run w = (w,
      if Outputs.expiry t lifetime * 1000000 ≤ w.clock then
        .refusal 403 (ServiceError.detail .storage (.storage .linkExpired))
      else sent ref bs) := by
  have hverify : exec (attempt (Outputs.verify settings token)) w = (w, .ok
      (if Outputs.expiry t lifetime * 1000000 ≤ w.clock then .error (.storage .linkExpired)
        else .ok ref)) := by
    rw [exec_attempt, htoken, Outputs.exec_verify settings ref hrange hclock]
  have hread : exec (attempt (Outputs.read ref)) w = (w, .ok (.ok bs)) := by
    rw [exec_attempt, Outputs.exec_read h]
  refine run_respond [("GET", .download token)] (e := .download token) ?_ ?_ ?_
  · rw [hr.path, Endpoint.all_downloads (htoken ▸ Token.slash_notMem_sign _ _ _)
      (htoken ▸ Token.sign_ne_empty _ _ _)]
  · rw [hr.method]
    rfl
  · show exec (download settings token) w = _
    unfold download
    rw [exec_bind_of_ok hverify]
    by_cases hexpired : Outputs.expiry t lifetime * 1000000 ≤ w.clock
    · rw [if_pos hexpired, if_pos hexpired]
      rfl
    · rw [if_neg hexpired, if_neg hexpired]
      dsimp only
      rw [exec_bind_of_ok hread]
      rfl

/-! ### Links in the midst of requests and tasks -/

/-- How a token is honored in a world, until it expires at a second, for the output `bs` that was made
of a file of some name. -/
structure Honors [Host] (settings : Settings) (w : World) (token : String) (expiry : Int)
    (name : String)
    (bs : Bytes) : Prop where
  served {r : Request} (hr : Downloads r token) (hnow : w.clock < expiry * 1000000)
    (hname : isSendable (FileName.stem name) = true) :
    ∃ type disposition, (respond settings r).run w = (w, ⟨200, .data type bs, some disposition⟩)
  /-- The name of the output does not fit into a header. -/
  failed {r : Request} (hr : Downloads r token) (hnow : w.clock < expiry * 1000000)
    (hname : isSendable (FileName.stem name) = false) :
    (respond settings r).run w = (w, .internalError)
  expired {r : Request} (hr : Downloads r token) (hnow : expiry * 1000000 ≤ w.clock) :
    ∃ v, (respond settings r).run w = (w, .refusal 403 v)

/-- The link in the state of a completed job: `bs` is what is stored for the job, and the token is for
this and says when it expires. -/
structure Offers [Host] (settings : Settings) (w : World) (j : Job) (v : Value) (token : String)
    (expiry : Int)
    (bs : Bytes) : Prop where
  stored : ∃ ref, j.outputRef = some ref ∧ j.Makes ref bs ∧
    exec (Outputs.read ref) w = (w, .ok bs) ∧
    ∃ claims, Token.payload settings.algorithm settings.secret token.toList = .ok claims ∧
      claims.get? "ref" = some (.str ref) ∧ claims.get? "exp" = some (.int expiry)
  address : v.get? "download_url" =
    some (.str (Outputs.dropSlashes settings.downloadBase ++ "/" ++ token))
  expires : v.get? "expires_at" = some (.ofTime (Outputs.later w.time settings.asyncLifetime))

theorem honors_tokenAt [Host] {settings : Settings} {name : String} {t : DateTime} {lifetime : Int}
    (hmakes : j.Makes ref bs) (hname : j.fileName = some name) (h : Outputs.Leads w.files ref bs p)
    (hrange : DateTime.InRange (t.toInstant + lifetime * microsPerSecond))
    (hclock : DateTime.first ≤ w.clock) :
    Honors settings w (Outputs.tokenAt settings ref lifetime t) (Outputs.expiry t lifetime) name bs := by
  have hsend : isSendable (FileName.base ref) = isSendable (FileName.stem name) := by
    obtain ⟨c, file, name', run, hnamed, -, -, rfl, -⟩ := hmakes
    obtain rfl := Option.some.inj (hname.symm.trans hnamed)
    rw [Outputs.base_refOf, isSendable_outputName]
  refine ⟨fun {r} hr hnow hsendable => ?_, fun {r} hr hnow hsendable => ?_, fun {r} hr hnow => ?_⟩
  all_goals rw [respond_download rfl hr h hrange hclock]
  · rw [if_neg (Int.not_le.mpr hnow), sent, hsend, hsendable]
    exact ⟨_, _, rfl⟩
  · rw [if_neg (Int.not_le.mpr hnow), sent, hsend, hsendable]
    rfl
  · rw [if_pos hnow]
    exact ⟨_, rfl⟩

/-- A completed job of a sound system is offered for download, and the offer is kept. -/
theorem offers_of_completed [Host] {s : System} {holds : Nat → Hold} (hs : s.Sound holds)
    (hclock : DateTime.first ≤ s.world.clock) (hj : s.world.store.jobs.get? id = some j)
    (hstatus : j.status = .completed) (hr : AsksFor r j.organization id)
    (hget : (World.countCall .get s.world.faults).2 = none) (settings : Settings)
    (hrange : DateTime.InRange (s.world.time.toInstant + settings.asyncLifetime * microsPerSecond)) :
    ∃ name bs w₁ v token,
      let expiry := Outputs.expiry s.world.time settings.asyncLifetime
      j.fileName = some name ∧ (respond settings r).run s.world = (w₁, .json 200 v) ∧
        Offers settings s.world j v token expiry bs ∧
        ∀ turns, Honors settings (System.run ⟨w₁, s.running⟩ turns).world token expiry name bs := by
  obtain ⟨ref, bs, p, href, hmakes, hleads⟩ := hs.filed.outputs id j hj hstatus
  obtain ⟨hid, n, hn⟩ := hs.filed.named id j hj
  have hpart : FileName.IsPart id.toList := hn ▸ IdKind.isPart_id n
  have hof : p.IsOf id := hid ▸ hmakes.isOf (hid.trans hn) hleads.path
  have hmakes' := hmakes
  obtain ⟨c, file, name, run, hname, -, -, hrefOf, -⟩ := hmakes'
  have hne : ref ≠ "" := hrefOf ▸ Outputs.refOf_ne_empty _ _ _
  refine ⟨name, bs, _, _, Outputs.tokenAt settings ref settings.asyncLifetime s.world.time, hname,
    respond_getJob hr hpart hj hstatus href hne hget settings,
    ⟨⟨ref, href, hmakes, Outputs.exec_read hleads, _,
      Token.payload_sign _ _ (Outputs.plain_claims hrange) rfl, rfl, rfl⟩, rfl, rfl⟩, fun turns => ?_⟩
  obtain ⟨hs₁, hgoes₁⟩ := hs.quiet (c := .getJob id) rfl
  obtain ⟨holds', hs', hgoes⟩ := hs₁.run turns
  have hgoes := hgoes₁.trans hgoes
  exact honors_tokenAt hmakes hname
    ⟨hleads.path, hleads.fits, (hgoes.lasts id j hj hstatus).2 p bs hof hleads.file⟩ hrange
    (Int.le_trans hclock hgoes.clock)

/-- **Completed jobs can be downloaded.**  Whatever requests and tasks went on before, side by side and
with any failures, a job that is completed is offered for download with what was stored for it.  Whatever
goes on afterwards, the token of the offer is answered with just this, until the second that it carries,
and is refused from then on; but if the name of the file has characters that do not fit into a byte, there
is an internal error instead of the output. -/
theorem download_of_completed [Host] (settings : Settings) {start : Instant}
    (hstart : DateTime.first ≤ start) (before : List Turn) :
    let s := (System.empty settings start).run before
    ∀ {id : String} {j : Job} {r : Request}, s.world.store.jobs.get? id = some j →
      j.status = .completed → AsksFor r j.organization id →
      (World.countCall .get s.world.faults).2 = none →
      DateTime.InRange (s.world.time.toInstant + settings.asyncLifetime * microsPerSecond) →
      ∃ name bs w₁ v token,
        let expiry := Outputs.expiry s.world.time settings.asyncLifetime
        j.fileName = some name ∧ (respond settings r).run s.world = (w₁, .json 200 v) ∧
          Offers settings s.world j v token expiry bs ∧
          ∀ after, Honors settings (System.run ⟨w₁, s.running⟩ after).world token expiry name bs := by
  intro s id j r hj hstatus hr hget hrange
  obtain ⟨holds, hs, hgoes⟩ := (System.sound_empty settings start).run before
  exact offers_of_completed hs (Int.le_trans hstart hgoes.clock) hj hstatus hr hget settings hrange

/-! ### A file is handed in -/

/-- A configuration without rules is imported. -/
def importRequest : Request where
  method := "POST"
  path := "/api/configurations/import"
  query := [("configuration_id", "c")]
  headers := [("x-organization-id", "o")]
  body := .bytes (Text.Utf8.encode
    "\x7b\"name\":\"copy\",\"rules\":[],\"outputFormat\":\x7b\"type\":\"CSV\"\x7d\x7d".toList)

/-- A configuration is imported, and a small table with a name is handed in and carried out. -/
def handingIn (name : String) : List Turn :=
  .request 0 importRequest :: List.replicate 6 (.go 0) ++
    .request 0 { smallTableRequest with
      body := .parts [("config_id", "c")] [("file", ⟨name, ⟨[97, 44, 98, 10]⟩⟩)] } ::
      List.replicate 22 (.go 0)

/-- What the job of the small table is asked for. -/
def stateRequest : Request where
  method := "GET"
  path := statusAddress (IdKind.job.id 1)
  query := []
  headers := [("x-organization-id", "o")]
  body := .bytes []

def downloadRequest (token : String) : Request where
  method := "GET"
  path := "/api/downloads/" ++ token
  query := []
  headers := []
  body := .bytes []

theorem asksFor_stateRequest : AsksFor stateRequest "o" (IdKind.job.id 1) := ⟨rfl, rfl, by rfl⟩

/-- A small table of this name was handed in at the start, its job is completed, and the store answers. -/
def isHandedIn [Host] (s : System) (name : String) : Bool :=
  ((s.world.store.jobs.get? (IdKind.job.id 1)).map
      fun j => (j.status, j.organization, j.fileName)) == some (.completed, "o", some name) &&
    (World.countCall .get s.world.faults).2.isNone && s.world.clock == 0 &&
    ((respond {} stateRequest).run s.world).1.clock == 0

theorem of_isHandedIn [Host] {s : System} {name : String} (h : isHandedIn s name = true) :
    (∃ j, s.world.store.jobs.get? (IdKind.job.id 1) = some j ∧ j.status = .completed ∧
        j.organization = "o" ∧ j.fileName = some name) ∧
      (World.countCall .get s.world.faults).2 = none ∧
      s.world.clock = 0 ∧ ((respond {} stateRequest).run s.world).1.clock = 0 ∧
      DateTime.InRange (s.world.time.toInstant + ({} : Settings).asyncLifetime * microsPerSecond) ∧
      Outputs.expiry s.world.time ({} : Settings).asyncLifetime = 86400 := by
  simp only [isHandedIn, Bool.and_eq_true, beq_iff_eq, Option.isNone_iff_eq_none] at h
  obtain ⟨⟨⟨hstored, hget⟩, hclock⟩, hclock'⟩ := h
  obtain ⟨j, hj, hfields⟩ := Option.map_eq_some_iff.mp hstored
  have htime : s.world.time = .ofInstant 0 := congrArg DateTime.ofInstant hclock
  refine ⟨⟨j, hj, by simpa using hfields⟩, hget, hclock, hclock', ?_, ?_⟩ <;> rw [htime]
  · exact ⟨by decide, by decide⟩
  · decide

section
attribute [local instance] Host.bare

/-- A table that was handed in is downloaded as it was stored. -/
theorem download_of_completed_table :
    let s := (System.empty {} 0).run (handingIn "table.csv")
    ∃ j w₁ v token bs, s.world.store.jobs.get? (IdKind.job.id 1) = some j ∧ j.status = .completed ∧
      (respond {} stateRequest).run s.world = (w₁, .json 200 v) ∧
      Offers {} s.world j v token 86400 bs ∧ w₁.clock < 86400 * 1000000 ∧
      ∃ type disposition, (respond {} (downloadRequest token)).run w₁ =
        (w₁, ⟨200, .data type bs, some disposition⟩) := by
  intro s
  obtain ⟨⟨j, hj, hstatus, horg, hname⟩, hget, -, hclock, hrange, hexpiry⟩ :=
    of_isHandedIn (show isHandedIn s "table.csv" = true by decide +kernel)
  obtain ⟨name, bs, w₁, v, token, hname', hrun, hoffers, hhonors⟩ :=
    download_of_completed {} (show DateTime.first ≤ 0 by decide) (handingIn "table.csv") hj hstatus
      (horg ▸ asksFor_stateRequest) hget hrange
  obtain rfl := Option.some.inj (hname'.symm.trans hname)
  rw [hexpiry] at hoffers hhonors
  rw [hrun] at hclock
  have hnow : w₁.clock < 86400 * 1000000 := hclock ▸ by decide
  exact ⟨j, w₁, v, token, bs, hj, hstatus, hrun, hoffers, hnow,
    (hhonors []).served ⟨rfl, rfl⟩ hnow (by decide)⟩

/-- A table with a name in Chinese is handed in and its job is completed, but it cannot be downloaded. -/
theorem download_fails_beyond_bytes :
    let s := (System.empty {} 0).run (handingIn "表.csv")
    FileName.isSupported "表.csv" = true ∧ Organization.isValid "o" = true ∧
      ∃ j w₁ v token bs, s.world.store.jobs.get? (IdKind.job.id 1) = some j ∧
        j.status = .completed ∧ j.organization = "o" ∧ j.fileName = some "表.csv" ∧
        (respond {} stateRequest).run s.world = (w₁, .json 200 v) ∧
        Offers {} s.world j v token 86400 bs ∧ w₁.clock < 86400 * 1000000 ∧
        (respond {} (downloadRequest token)).run w₁ = (w₁, .internalError) := by
  intro s
  obtain ⟨⟨j, hj, hstatus, horg, hname⟩, hget, hstart, hclock, hrange, hexpiry⟩ :=
    of_isHandedIn (show isHandedIn s "表.csv" = true by decide +kernel)
  obtain ⟨holds, hs, -⟩ := (System.sound_empty {} 0).run (handingIn "表.csv")
  have hfirst : DateTime.first ≤ s.world.clock :=
    Int.le_trans (show DateTime.first ≤ 0 by decide) (Int.le_of_eq hstart.symm)
  obtain ⟨name, bs, w₁, v, token, hname', hrun, hoffers, hhonors⟩ :=
    offers_of_completed hs hfirst hj hstatus (horg ▸ asksFor_stateRequest) hget {} hrange
  obtain rfl := Option.some.inj (hname'.symm.trans hname)
  rw [hexpiry] at hoffers hhonors
  rw [hrun] at hclock
  have hnow : w₁.clock < 86400 * 1000000 := hclock ▸ by decide
  exact ⟨by decide +kernel, by decide +kernel, j, w₁, v, token, bs, hj, hstatus, horg, hname, hrun,
    hoffers, hnow, (hhonors []).failed ⟨rfl, rfl⟩ hnow (by decide)⟩

end

end Transforms

end Web

end Sheetflow
