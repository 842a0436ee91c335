import HwpcSensor.Storage.Document
import HwpcSensor.Strtol

namespace HwpcSensor.Storage.Socket

open Interaction

def PORT_STR_BUFFER_SIZE : Nat := 8

def TIMESTAMP_STR_BUFFER_SIZE : Nat := 32

def MAX_DURATION_CONNECTION_RETRY : Int := 1800

def AF_UNSPEC : Int := 0

def SOCK_STREAM : Int := 1

structure addrinfo where
  ai_family : Int
  ai_socktype : Int
  ai_protocol : Int
  ai_addr : List UInt8
  deriving DecidableEq

-- The calls with which the module reaches the outside. The last two are the
-- messages of `socket_try_reconnect`.
inductive socket_call where
  | time
  | getrandom
  | getaddrinfo (node : String) (service : List Char) (hints : addrinfo)
  | socket (family socktype protocol : Int)
  | connect (fd : Int) (addr : List UInt8)
  | close (fd : Int)
  | send (fd : Int) (buffer : List UInt8)
  | next_try (seconds : Int)
  | recovered

-- A failed resolution has no list, and without entropy there is no byte.
def socket_answer : socket_call → Type
  | .time => Int
  | .getrandom => Option UInt8
  | .getaddrinfo _ _ _ => Option (List addrinfo)
  | .socket _ _ _ => Int
  | .connect _ _ => Int
  | .close _ => Unit
  | .send _ _ => Int
  | .next_try _ => Unit
  | .recovered => Unit

abbrev socket_program (α : Type) := Prog socket_call socket_answer α

def time : socket_program Int := perform socket_call.time

def getrandom : socket_program (Option UInt8) := perform socket_call.getrandom

def getaddrinfo (node : String) (service : List Char) (hints : addrinfo) :
    socket_program (Option (List addrinfo)) :=
  perform (socket_call.getaddrinfo node service hints)

def socket (family socktype protocol : Int) : socket_program Int :=
  perform (socket_call.socket family socktype protocol)

def connect (fd : Int) (addr : List UInt8) : socket_program Int :=
  perform (socket_call.connect fd addr)

def close (fd : Int) : socket_program Unit := perform (socket_call.close fd)

def send (fd : Int) (buffer : List UInt8) : socket_program Int :=
  perform (socket_call.send fd buffer)

def next_try (seconds : Int) : socket_program Unit := perform (socket_call.next_try seconds)

def recovered : socket_program Unit := perform socket_call.recovered

structure socket_config where
  sensor_name : String
  address : String
  port : Int

structure socket_context where
  config : socket_config
  socket_fd : Int
  last_retry_time : Int
  retry_backoff_time : Int

def socket_context_create (sensor_name address : String) (port : Int) : socket_context where
  config := ⟨sensor_name, address, port⟩
  socket_fd := -1
  last_retry_time := 0
  retry_backoff_time := 1

-- What `snprintf` leaves in the buffer for the port.
def port_str (port : Int) : List Char :=
  (signed_decimal port).take (PORT_STR_BUFFER_SIZE - 1)

-- The loop over the addresses, with `sfd` and `ret` as they are left behind.
def connect_to_any : List addrinfo → Int × Int → socket_program (Int × Int)
  | [], s => pure s
  | rp :: rest, s => do
      let sfd ← socket rp.ai_family rp.ai_socktype rp.ai_protocol
      if sfd = -1 then connect_to_any rest (sfd, s.2)
      else do
        let ret ← connect sfd rp.ai_addr
        if ret = 0 then pure (sfd, ret)
        else do
          close sfd
          connect_to_any rest (sfd, ret)

def socket_resolve_and_connect (ctx : socket_context) : socket_program (Int × socket_context) := do
  let result ← getaddrinfo ctx.config.address (port_str ctx.config.port)
    ⟨AF_UNSPEC, SOCK_STREAM, 0, []⟩
  match result with
  | none => pure (-1, ctx)
  | some result => do
      let connected ← connect_to_any result (-1, -1)
      if connected.2 = -1 then pure (connected.2, ctx)
      else pure (connected.2, { ctx with socket_fd := connected.1 })

structure storage_module where
  context : socket_context
  is_initialized : Bool

def socket_initialize (s : storage_module) : socket_program (Int × storage_module) :=
  if s.is_initialized then pure (-1, s)
  else do
    let connected ← socket_resolve_and_connect s.context
    if connected.1 ≠ 0 then pure (-1, { s with context := connected.2 })
    else pure (0, ⟨connected.2, true⟩)

def close_current (ctx : socket_context) : socket_program socket_context :=
  if ctx.socket_fd ≠ -1 then do
    close ctx.socket_fd
    pure { ctx with socket_fd := -1 }
  else pure ctx

-- `nbrand != -1 ? rand_jitter % 10 : 0`
def jitter : Option UInt8 → Int
  | none => 0
  | some rand_jitter => rand_jitter.toNat % 10

def back_off (ctx : socket_context) : socket_program socket_context :=
  if ctx.retry_backoff_time < MAX_DURATION_CONNECTION_RETRY then do
    let nbrand ← getrandom
    pure { ctx with retry_backoff_time := ctx.retry_backoff_time * 2 + jitter nbrand }
  else pure ctx

def socket_try_reconnect (ctx : socket_context) : socket_program (Int × socket_context) := do
  let current_time ← time
  let ctx ← close_current ctx
  if current_time - ctx.last_retry_time ≥ ctx.retry_backoff_time then do
    let connected ← socket_resolve_and_connect ctx
    if connected.1 ≠ 0 then do
      let ctx ← back_off { connected.2 with last_retry_time := current_time }
      next_try ctx.retry_backoff_time
      pure (-1, ctx)
    else do
      recovered
      pure (0, { connected.2 with last_retry_time := 0, retry_backoff_time := 1 })
  else pure (-1, ctx)

structure report_document (Double : Type) where
  timestamp : List Char
  sensor : String
  target : String
  groups : document (document (document (document (bson Double))))

-- What the conversion to a double and libbson do.
structure json_writer (Double : Type) where
  to_double : Nat → Double
  bson_as_json : report_document Double → Option (List UInt8)

variable {Double : Type} (writer : json_writer Double)

def report (ctx : socket_context) (payload : payload) : report_document Double where
  timestamp := (decimal payload.timestamp).take (TIMESTAMP_STR_BUFFER_SIZE - 1)
  sensor := ctx.config.sensor_name
  target := payload.target_name
  groups := socket_doc_groups writer.to_double payload

-- The loop that sends. Its `continue` goes on with the condition, which takes one
-- from `retry_once`.
def send_report (json_report : List UInt8) :
    Nat → socket_context → socket_program (Int × socket_context)
  | retry_once, ctx => do
      let nbsend ← send ctx.socket_fd json_report
      if nbsend = -1 then
        match retry_once with
        | 0 => pure (-1, ctx)
        | retry_once + 1 => do
            let reconnected ← socket_try_reconnect ctx
            if reconnected.1 = 0 then send_report json_report retry_once reconnected.2
            else pure (-1, reconnected.2)
      else pure (0, ctx)

def ensure_connected (ctx : socket_context) : socket_program (Int × socket_context) :=
  if ctx.socket_fd = -1 then socket_try_reconnect ctx else pure (0, ctx)

def socket_store_report (ctx : socket_context) (payload : payload) :
    socket_program (Int × socket_context) := do
  let connected ← ensure_connected ctx
  if connected.1 ≠ 0 then pure (-1, connected.2)
  else
    match writer.bson_as_json (report writer connected.2 payload) with
    | none => pure (-1, connected.2)
    | some json_report => send_report json_report 1 connected.2

end HwpcSensor.Storage.Socket
