import Herald.Run.Relay

/-!
# Log records of runs

What is written to the log when the run of a webhook has ended: one record for
its outcome, and a warning after it if messages could not be delivered.
-/

namespace Herald

inductive LogLevel where
  | debug
  | info
  | warn
  | error
  deriving DecidableEq, Repr

def LogLevel.name : LogLevel → String
  | .debug => "DEBUG"
  | .info => "INFO"
  | .warn => "WARN"
  | .error => "ERROR"

inductive LogValue where
  | text (value : String)
  | count (value : Nat)
  deriving DecidableEq, Repr

structure LogRecord where
  level : LogLevel
  message : String
  fields : List (String × LogValue)
  deriving DecidableEq, Repr

def LogValue.toJson : LogValue → Json
  | .text value => .string value
  | .count value => .number (.integer value)

/-- The fields of a record stand beside its level and message. -/
def LogRecord.toJson (r : LogRecord) : Json :=
  .object ([("level", .string r.level.name), ("message", .string r.message)] ++
    r.fields.map fun (name, value) => (name, value.toJson))

/-- A webhook whose run has ended. -/
structure Finished where
  webhook : Webhook
  outcome : Outcome
  deriving DecidableEq, Repr

namespace Finished

def records (f : Finished) : List LogRecord :=
  let about : String × LogValue := ("instance_id", .text f.webhook.instanceId.text)
  match f.outcome with
  | .delivered report =>
    let failures := report.channels.failed.length
    let warnings := report.direct.warnings.length + failures
    let delivered : LogRecord := {
      level := .debug
      message := "Webhook delivered"
      fields := [about, ("direct", .count report.direct.posted.length),
        ("channels", .count report.channels.delivered.length),
        ("channel_failures", .count failures)] }
    if warnings = 0 then [delivered]
    else [delivered, {
      level := .warn
      message := "Webhook delivered with failures"
      fields := [about, ("warnings", .count warnings)] }]
  | .ignored reason =>
    [{ level := .info, message := "Webhook ignored"
       fields := [about, ("reason", .text reason.shown)] }]
  | .failed failure =>
    [{ level := .error, message := "Error processing webhook"
       fields := [about, ("kind", .text failure.kind.shown), ("error", .text failure.message)] }]

end Finished

end Herald
