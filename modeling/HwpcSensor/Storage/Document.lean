import HwpcSensor.Storage.Csv
import HwpcSensor.Util

namespace HwpcSensor.Storage

open LittleEndian

-- A document as its keys with their values in the order they were appended in.
abbrev document (β : Type) := List (String × β)

inductive bson (Double : Type) where
  | double (value : Double)
  | utf8 (text : List Char)
  deriving DecidableEq

-- The text that `(char *) event_value` leads to. The bytes of a counter end at
-- the first that is zero.
def read_string : event_value → List Char
  | .counter value =>
      ((encode 8 value).map fun byte => Char.ofNat byte.toNat).takeWhile (· ≠ NUL)
  | .callchain text => text

-- The subtree of the groups, where the modules differ in what they append for an
-- event only.
def doc_groups {Field : Type} (append_event : String → event_value → Field) (payload : payload) :
    document (document (document (document Field))) :=
  payload.groups.map fun group => (group.1,
    group.2.pkgs.map fun pkg => (pkg.1,
      pkg.2.cpus.map fun cpu => (cpu.1,
        cpu.2.events.map fun event => (event.1, append_event event.1 event.2))))

section

variable {Double : Type} (to_double : Nat → Double)

def socket_append_event (_event_name : String) (value : event_value) : bson Double :=
  .double (to_double (read_uint64 value))

def mongodb_append_event (event_name : String) (value : event_value) : bson Double :=
  if event_name = "callchain" then .utf8 (read_string value)
  else .double (to_double (read_uint64 value))

def socket_doc_groups (payload : payload) :
    document (document (document (document (bson Double)))) :=
  doc_groups (socket_append_event to_double) payload

def mongodb_doc_groups (payload : payload) :
    document (document (document (document (bson Double)))) :=
  doc_groups (mongodb_append_event to_double) payload

end

end HwpcSensor.Storage
