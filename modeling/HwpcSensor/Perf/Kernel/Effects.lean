import HwpcSensor.Perf.Actor.Lemmas
import HwpcSensor.Perf.Kernel

namespace HwpcSensor.Perf

open Interaction Syscall

namespace kernel

variable {atomic : Prop} {s s' : kernel}

-- What a call can do to the kernel, whatever it answers.
inductive Effect (s : kernel) : syscall → kernel → Prop
  | none {call : syscall} : Effect s call s.forget
  | add (request : perf_request) (fd : Int) (hfresh : fd ∉ s.wiring.opened) (hfd : 0 ≤ fd) :
      Effect s (.perf_event_open request.attr request.pid request.cpu request.group_fd
        request.flags) (s.add fd request hfresh hfd)
  | map (fd : Int) (buffer : Nat) (r : ring) (hfree : s.rings buffer = none)
      (hempty : r.records = []) : Effect s (.mmap fd) (s.map buffer r)
  | close (fd : Int) : Effect s (.close fd) (s.close fd)
  | reset (leader : Int) : Effect s (.ioctl_reset leader) (s.reset leader)
  | enable (leader : Int) : Effect s (.ioctl_enable leader) (s.enable leader)
  | read (leader : Int) (size : Nat) : Effect s (.read leader size) (s.read leader)
  | consume (buffer : Nat) (dwfl : Option Dwfl) (r : ring) (mem : memory)
      (text : Option (List Char)) (hring : s.rings buffer = some r)
      (hcall : Perf.get_callchains mem true dwfl r.page = some (r.drained.page, text)) :
      Effect s (.get_callchains buffer dwfl) (s.consume buffer dwfl r text)
  | send (payload : payload) : Effect s (.send payload) (s.send payload)

theorem serve_effect {call : syscall} {answer : syscall_answer call}
    (h : s.Serve call answer s') : Effect s call s' := by
  cases call with
  | malloc =>
      obtain ⟨-, rfl⟩ := h
      exact .none
  | perf_event_open attr pid cpu group_fd flags =>
      rcases h with ⟨-, rfl⟩ | ⟨hfresh, hfd, rfl⟩
      · exact .none
      · exact .add ⟨attr, pid, cpu, group_fd, flags⟩ answer hfresh hfd
  | mmap fd =>
      cases answer with
      | none =>
          obtain rfl : s' = s.forget := h
          exact .none
      | some buffer =>
          obtain ⟨hfree, r, hempty, rfl⟩ := h
          exact .map fd buffer r hfree hempty
  | close fd =>
      obtain rfl : s' = s.close fd := h
      exact .close fd
  | ioctl_reset leader =>
      rcases h with ⟨-, -, rfl⟩ | ⟨-, rfl⟩
      · exact .reset leader
      · exact .none
  | ioctl_enable leader =>
      rcases h with ⟨-, -, rfl⟩ | ⟨-, rfl⟩
      · exact .enable leader
      · exact .none
  | read leader size =>
      cases answer with
      | none =>
          obtain rfl : s' = s.forget := h
          exact .none
      | some report =>
          obtain ⟨-, -, -, rfl⟩ := h
          exact .read leader size
  | get_callchains buffer dwfl =>
      simp only [Serve] at h
      cases hring : s.rings buffer with
      | none =>
          rw [hring] at h
          obtain rfl : s' = s.forget := h
          exact .none
      | some r =>
          rw [hring] at h
          obtain ⟨mem, hcall, rfl⟩ := h
          exact .consume buffer dwfl r mem answer hring hcall
  | send payload =>
      obtain rfl : s' = s.send payload := h
      exact .send payload
  | _ =>
      obtain rfl : s' = s.forget := h
      exact .none

theorem step_effect {call : syscall} {answer : syscall_answer call}
    (h : kernel.step atomic s call answer s') : ∃ m, Between atomic s m ∧ Effect m call s' := by
  obtain ⟨m, hbetween, hserve⟩ := h
  exact ⟨m, hbetween, serve_effect hserve⟩

-- The invariant rule of the kernel: what the time between two calls keeps, and
-- the effects of the calls that a program uses.
theorem exec_invariant {α : Type} {program : program α} {result : α} {P : syscall → Prop}
    (h : Exec (kernel.step atomic) program s result s') (huses : program.Uses P)
    (Inv : kernel → Prop) (hbetween : ∀ {t m}, Between atomic t m → Inv t → Inv m)
    (heffect : ∀ {m call t'}, P call → Effect m call t' → Inv m → Inv t') (hstart : Inv s) :
    Inv s' := by
  refine h.preserves_uses huses Inv ?_ hstart
  intro t call answer t' hcall hinv hstep
  obtain ⟨m, hm, heff⟩ := step_effect hstep
  exact heffect hcall heff (hbetween hm hinv)

theorem Between.wiring_eq (h : Between atomic s s') : s'.wiring = s.wiring := by
  cases h
  rfl

theorem Effect.wiring_eq {call : syscall} (h : Effect s call s') (hkeep : KeepsCounters call) :
    s'.wiring = s.wiring := by
  cases h with
  | add | close => exact False.elim hkeep
  | _ => rfl

end kernel

variable {atomic : Prop} {s s' : kernel}

theorem step_wiring {call : syscall} {answer : syscall_answer call} (hkeep : KeepsCounters call)
    (h : kernel.step atomic s call answer s') : s'.wiring = s.wiring := by
  obtain ⟨m, hbetween, heffect⟩ := kernel.step_effect h
  rw [heffect.wiring_eq hkeep, hbetween.wiring_eq]

theorem exec_wiring {α : Type} {program : program α} {result : α}
    (huses : program.Uses KeepsCounters) (h : Exec (kernel.step atomic) program s result s') :
    s'.wiring = s.wiring :=
  kernel.exec_invariant h huses (fun t => t.wiring = s.wiring)
    (fun hbetween ht => hbetween.wiring_eq.trans ht)
    (fun hkeep heffect ht => (heffect.wiring_eq hkeep).trans ht) rfl

section Still

variable {t t' t'' : kernel}

-- A step that leaves the history as it is.
structure Still (t t' : kernel) : Prop where
  wiring : t'.wiring = t.wiring
  readings : t'.readings = t.readings
  consumed : t'.consumed = t.consumed
  taken : t'.taken = t.taken
  sent : t'.sent = t.sent

theorem Still.trans (h : Still t t') (h' : Still t' t'') : Still t t'' :=
  ⟨h'.wiring.trans h.wiring, h'.readings.trans h.readings, h'.consumed.trans h.consumed,
    h'.taken.trans h.taken, h'.sent.trans h.sent⟩

theorem kernel.Between.still (h : kernel.Between atomic t t') : Still t t' := by
  cases h
  exact ⟨rfl, rfl, rfl, rfl, rfl⟩

theorem kernel.Effect.still {call : syscall} (h : kernel.Effect t call t') (hcall : Passive call) :
    Still t t' := by
  cases h with
  | none => exact ⟨rfl, rfl, rfl, rfl, rfl⟩
  | _ => exact False.elim hcall

theorem step_readings {call : syscall} {answer : syscall_answer call}
    (h : kernel.step atomic t call answer t') (hread : ∀ fd size, call ≠ .read fd size) :
    t'.readings = t.readings := by
  obtain ⟨m, hbetween, heffect⟩ := kernel.step_effect h
  cases heffect with
  | read leader size => exact absurd rfl (hread leader size)
  | _ => exact hbetween.still.readings

theorem exec_still {α : Type} {program : program α} {result : α} (huses : program.Uses Passive)
    (h : Exec (kernel.step atomic) program t result t') : Still t t' :=
  kernel.exec_invariant h huses (Still t) (fun hbetween hstill => hstill.trans hbetween.still)
    (fun hcall heffect hstill => hstill.trans (heffect.still hcall)) ⟨rfl, rfl, rfl, rfl, rfl⟩

end Still

end HwpcSensor.Perf
