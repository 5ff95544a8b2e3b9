import Sheetflow.Document.Value
import Sheetflow.Number.Decimal
import Sheetflow.Token.Basic

/-!
# Settings

Limits on what is accepted, how queued work is treated, and how downloads are signed.
-/

namespace Sheetflow

/-- A number of megabytes, whole or not. -/
inductive Megabytes where
  | whole (n : Int)
  | fraction (x : Double)
deriving DecidableEq, Repr

namespace Megabytes

def toDouble : Megabytes → Double
  | .whole n => .ofInt n
  | .fraction x => x

def toValue : Megabytes → Value
  | .whole n => .int n
  | .fraction x => .float x

/-- The text with at most six significant digits. -/
def text (m : Megabytes) : String := m.toDouble.generalText 6

/-- Is there a limit at all? -/
def isLimit (m : Megabytes) : Bool := !m.toDouble.isZero

end Megabytes

structure Settings where
  queueName : String := "file-transformation"
  /-- Seconds a queued job may take. -/
  jobTimeout : Int := 600
  /-- Files of this size or more are always queued. -/
  syncThreshold : Int := 10485760
  maxFileSize : Megabytes := .fraction (.ofInt 50)
  /-- Jobs of an organization that may be under way at once; none means no limit. -/
  concurrentLimit : Int := 5
  /-- Jobs of an organization in a month. -/
  monthlyLimit : Int := 1000
  downloadBase : String := "http://127.0.0.1:9200/api/downloads"
  secret : String := "change-me"
  algorithm : Token.Algorithm := .hs256
  /-- Seconds a download address lives that is given with an immediate answer. -/
  syncLifetime : Int := 3600
  /-- Seconds a download address lives that is given with the status of a job. -/
  asyncLifetime : Int := 86400

namespace Settings

/-- Change the setting of a name; other names change nothing. -/
def set (s : Settings) (name : String) (v : Value) : Settings :=
  match name, v with
  | "queue_name", .str q => { s with queueName := q }
  | "job_timeout_seconds", .int n => { s with jobTimeout := n }
  | "sync_threshold_bytes", .int n => { s with syncThreshold := n }
  | "max_file_size_mb", .int n => { s with maxFileSize := .whole n }
  | "max_file_size_mb", .float x => { s with maxFileSize := .fraction x }
  | "concurrent_conversion_limit", .int n => { s with concurrentLimit := n }
  | "monthly_conversion_limit", .int n => { s with monthlyLimit := n }
  | "download_base_url", .str u => { s with downloadBase := u }
  | "signing_secret", .str k => { s with secret := k }
  | "signing_algorithm", .str a => { s with algorithm := (Token.Algorithm.ofName? a).getD s.algorithm }
  | "sync_url_ttl_seconds", .int n => { s with syncLifetime := n }
  | "async_url_ttl_seconds", .int n => { s with asyncLifetime := n }
  | _, _ => s

end Settings

end Sheetflow
