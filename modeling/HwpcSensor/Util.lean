import Mathlib.Data.List.TakeWhile

namespace HwpcSensor

def NUL : Char := Char.ofNat 0

-- The characters of a C string, up to its terminator.
def c_string (s : List Char) : List Char :=
  s.takeWhile (· ≠ NUL)

def strlen (s : List Char) : Nat :=
  (c_string s).length

-- `buffer` lists the allocated bytes.
structure strbuffer where
  buffer : List Char
  buffsize : Nat
  currsize : Nat

-- `allocated` tells whether the two allocations succeed.
def strnew (allocated : Bool) (size : Nat) : Option strbuffer :=
  if size = 0 then none
  else if allocated then some ⟨List.replicate size NUL, size, 0⟩
  else none

-- The doubling loop of `strapp`.
def grow : Nat → Nat → Nat → Nat
  | 0, new_size, _ => new_size
  | fuel + 1, new_size, needed =>
      if new_size ≤ needed then grow fuel (new_size * 2) needed else new_size

-- The copy at the end of `strapp`, terminator included.
def strbuffer.write (sb : strbuffer) (to_append : List Char) : strbuffer :=
  { sb with
    buffer := sb.buffer.take sb.currsize ++ (c_string to_append ++ [NUL]) ++
      sb.buffer.drop (sb.currsize + (strlen to_append + 1))
    currsize := sb.currsize + strlen to_append }

-- `realloc` is `none` when the reallocation fails, and otherwise gives what the
-- fresh bytes happen to hold.
def strapp (realloc : Option (Nat → Char)) (sb : strbuffer) (to_append : List Char) : strbuffer :=
  let append_len := strlen to_append + 1
  let new_size := grow (sb.currsize + append_len + 1) sb.buffsize (sb.currsize + append_len)
  if new_size > sb.buffsize then
    match realloc with
    | none => sb
    | some fresh =>
        strbuffer.write
          { sb with
            buffer := sb.buffer ++ (List.range (new_size - sb.buffsize)).map fresh
            buffsize := new_size } to_append
  else sb.write to_append

-- The caller reads the returned block as a C string.
def strfreewrap (sb : strbuffer) : List Char :=
  c_string sb.buffer

end HwpcSensor
