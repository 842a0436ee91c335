import HwpcSensor.Library.Ownership
import HwpcSensor.Perf.Actor
import HwpcSensor.Perf.Setup.Lemmas

namespace HwpcSensor.Perf

open Interaction Ownership

-- The perf actor and everyone else in the process.
inductive party where
  | actor
  | other
  deriving DecidableEq

-- What the kernel answered to the calls that may fail while the events are set up.
structure setup_answers where
  opened : List Int
  perf_opened : List Int
  mapped : List (Option Nat)

structure descriptor_state where
  table : Table Int party
  answers : setup_answers

def IsDescriptor (fd : Int) : Prop :=
  0 ≤ fd

instance : DecidablePred IsDescriptor := fun fd => inferInstanceAs (Decidable (0 ≤ fd))

-- A descriptor is given with a number that is free; a negative number gives none.
def give (s : descriptor_state) (fd : Int) : descriptor_state :=
  if IsDescriptor fd then { s with table := s.table.acquire fd .actor } else s

def FreeDescriptor (s : descriptor_state) (fd : Int) : Prop :=
  IsDescriptor fd → s.table.owner fd = none

def descriptor_state.log_open (s : descriptor_state) (fd : Int) : descriptor_state :=
  { s with answers := { s.answers with opened := s.answers.opened ++ [fd] } }

def descriptor_state.log_perf_event_open (s : descriptor_state) (fd : Int) : descriptor_state :=
  { s with answers := { s.answers with perf_opened := s.answers.perf_opened ++ [fd] } }

def descriptor_state.log_mmap (s : descriptor_state) (buffer : Option Nat) : descriptor_state :=
  { s with answers := { s.answers with mapped := s.answers.mapped ++ [buffer] } }

def Serve (s : descriptor_state) :
    (call : syscall) → syscall_answer call → descriptor_state → Prop
  | .malloc, allocated, s' => allocated = true ∧ s' = s
  | .open _, fd, s' => FreeDescriptor s fd ∧ s' = (give s fd).log_open fd
  | .perf_event_open _ _ _ _ _, fd, s' =>
      FreeDescriptor s fd ∧ s' = (give s fd).log_perf_event_open fd
  | .mmap _, buffer, s' => s' = s.log_mmap buffer
  | .fopen _, none, s' => s' = s
  | .fopen _, some stream, s' => IsDescriptor stream ∧ FreeDescriptor s stream ∧ s' = give s stream
  | .close fd, _, s' => s' = { s with table := s.table.release fd }
  | .fclose stream, _, s' => s' = { s with table := s.table.release stream }
  | _, _, s' => s' = s

-- The others open and close descriptors of their own before every call.
def descriptor_step : Semantics syscall syscall_answer descriptor_state :=
  fun s call answer s' => ∃ table, Table.Moves IsDescriptor .actor s.table table ∧
    Serve { s with table := table } call answer s'

-- Every close so far that named a descriptor was of one the actor had open.
def ClosesOwned (s : descriptor_state) : Prop :=
  s.table.Clean IsDescriptor .actor

def CpuIdsParse (config : perf_config) : Prop :=
  ∀ group_item ∈ config.events_groups, ∀ pkg_item ∈ config.hwinfo.pkgs,
    ∀ cpu_id ∈ selected_cpus group_item.2 pkg_item.2, parse_cpu_id cpu_id ≠ none

-- The kernel gave all the counters and mappings it was asked for.
def setup_answers.Granted (answers : setup_answers) : Prop :=
  (∀ fd ∈ answers.perf_opened, 1 ≤ fd) ∧ none ∉ answers.mapped

-- The directory of the cgroup was opened, and then the set up failed.
def Abandoned (config : perf_config) (answers : setup_answers) : Prop :=
  ∃ fd ∈ answers.opened, IsDescriptor fd ∧
    (fd = 0 ∨ ¬answers.Granted ∨ ¬CpuIdsParse config)

end HwpcSensor.Perf
