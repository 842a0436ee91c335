import HwpcSensor.Events
import HwpcSensor.Library.Interaction
import HwpcSensor.Payload
import HwpcSensor.Perf.Callchain

namespace HwpcSensor

open Interaction Perf

-- What a group leader is read as. There is one value for each event of the group.
structure perf_read_format where
  nr : Nat
  time_enabled : Nat
  time_running : Nat
  values : List Nat
  deriving DecidableEq

-- `offsetof(struct perf_read_format, values)` and one `uint64_t` for each value.
def perf_read_size (events : Nat) : Nat :=
  24 + 8 * events

-- The calls with which a perf actor reaches the outside: allocations, the system
-- calls, the standard streams, elfutils and the reporting socket. Streams are
-- named by their descriptor.
inductive syscall where
  | malloc
  | open (path : String)
  | perf_event_open (attr : perf_event_attr) (pid cpu group_fd : Int) (flags : Nat)
  | mmap (fd : Int)
  | close (fd : Int)
  | ioctl_reset (fd : Int)
  | ioctl_enable (fd : Int)
  | read (fd : Int) (size : Nat)
  | get_callchains (buffer : Nat) (dwfl : Option Dwfl)
  | fopen (path : String)
  | getline (stream : Int)
  | fgets (stream : Int)
  | fclose (stream : Int)
  | init_dwfl (pid : Int)
  | dwfl_end
  | warning
  | send (payload : payload)

-- A read is answered when it returned all the bytes asked for.
def syscall_answer : syscall → Type
  | .malloc => Bool
  | .open _ => Int
  | .perf_event_open _ _ _ _ _ => Int
  | .mmap _ => Option Nat
  | .close _ => Unit
  | .ioctl_reset _ => Int
  | .ioctl_enable _ => Int
  | .read _ _ => Option perf_read_format
  | .get_callchains _ _ => Option (List Char)
  | .fopen _ => Option Int
  | .getline _ => Option String
  | .fgets _ => Option (List Char)
  | .fclose _ => Unit
  | .init_dwfl _ => Option Dwfl
  | .dwfl_end => Unit
  | .warning => Unit
  | .send _ => Unit

abbrev program (α : Type) := Prog syscall syscall_answer α

namespace Syscall

def malloc : program Bool := perform syscall.malloc

def open_path (path : String) : program Int := perform (syscall.open path)

def perf_event_open (attr : perf_event_attr) (pid cpu group_fd : Int) (flags : Nat) :
    program Int :=
  perform (syscall.perf_event_open attr pid cpu group_fd flags)

def mmap (fd : Int) : program (Option Nat) := perform (syscall.mmap fd)

def close (fd : Int) : program Unit := perform (syscall.close fd)

def ioctl_reset (fd : Int) : program Int := perform (syscall.ioctl_reset fd)

def ioctl_enable (fd : Int) : program Int := perform (syscall.ioctl_enable fd)

def read (fd : Int) (size : Nat) : program (Option perf_read_format) :=
  perform (syscall.read fd size)

def get_callchains (buffer : Nat) (dwfl : Option Dwfl) : program (Option (List Char)) :=
  perform (syscall.get_callchains buffer dwfl)

def fopen (path : String) : program (Option Int) := perform (syscall.fopen path)

def getline (stream : Int) : program (Option String) := perform (syscall.getline stream)

def fgets (stream : Int) : program (Option (List Char)) := perform (syscall.fgets stream)

def fclose (stream : Int) : program Unit := perform (syscall.fclose stream)

def init_dwfl (pid : Int) : program (Option Dwfl) := perform (syscall.init_dwfl pid)

def dwfl_end : program Unit := perform syscall.dwfl_end

def warning : program Unit := perform syscall.warning

def send (payload : payload) : program Unit := perform (syscall.send payload)

end Syscall

end HwpcSensor
