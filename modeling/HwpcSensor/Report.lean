import HwpcSensor.Library.Interaction
import HwpcSensor.Payload

namespace HwpcSensor.Report

open Interaction

-- What the reporting actor asks for: memory for its context, the storage of a
-- payload, lines in the log and the end of a payload.
inductive report_call where
  | malloc
  | storage_module_store_report (payload : payload)
  | zsys_error (message : String)
  | zsys_info (message : String)
  | payload_destroy (payload : payload)
  | free

def report_answer : report_call → Type
  | .malloc => Bool
  | .storage_module_store_report _ => Int
  | .zsys_error _ | .zsys_info _ | .payload_destroy _ | .free => Unit

abbrev program (α : Type) := Prog report_call report_answer α

def malloc : program Bool := perform report_call.malloc

def storage_module_store_report (payload : payload) : program Int :=
  perform (report_call.storage_module_store_report payload)

def zsys_error (message : String) : program Unit := perform (report_call.zsys_error message)

def zsys_info (message : String) : program Unit := perform (report_call.zsys_info message)

def payload_destroy (payload : payload) : program Unit :=
  perform (report_call.payload_destroy payload)

def free : program Unit := perform report_call.free

structure report_context where
  terminated : Bool

-- What `zpoller_wait` returns: the pipe, or the reporting socket with the pointer
-- that it receives.
inductive poll_event where
  | pipe (command : String)
  | reporting (payload : Option payload)

def handle_pipe (ctx : report_context) (command : String) : program report_context :=
  if command = "$TERM" then do
    zsys_info "reporting: bye!"
    pure { ctx with terminated := true }
  else do
    zsys_error ("reporting: invalid pipe command: " ++ command)
    pure ctx

def store_error (payload : payload) : String :=
  "report: failed to store the report for timestamp=" ++ toString payload.timestamp

def handle_reporting : Option payload → program Unit
  | none => pure ()
  | some payload => do
      let failed ← storage_module_store_report payload
      if failed ≠ 0 then do
        zsys_error (store_error payload)
        payload_destroy payload
      else payload_destroy payload

def handle_event (ctx : report_context) : poll_event → program report_context
  | .pipe command => handle_pipe ctx command
  | .reporting payload => do
      handle_reporting payload
      pure ctx

-- The loop of the actor, over the events of its poller up to the one that ends
-- it. The end of the events is an interruption of the process.
def report : List poll_event → report_context → program report_context
  | [], ctx => pure ctx
  | event :: rest, ctx => do
      let ctx ← handle_event ctx event
      if ctx.terminated then pure ctx else report rest ctx

def reporting_actor (events : List poll_event) : program Unit := do
  let allocated ← malloc
  if allocated = false then zsys_error "reporting: cannot create context"
  else do
    let _ ← report events ⟨false⟩
    free

end HwpcSensor.Report
