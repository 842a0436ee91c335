import HwpcSensor.Library.Interaction
import HwpcSensor.Library.LittleEndian
import HwpcSensor.Payload
import Mathlib.Data.List.Sort

namespace HwpcSensor.Storage

open Interaction LittleEndian

def CSV_LINE_BUFFER_SIZE : Nat := 1024

def PATH_MAX : Nat := 4096

structure csv_config where
  sensor_name : String
  output_dir : String

-- A `FILE *` is a number.
structure csv_context where
  config : csv_config
  groups_fd : zhashx Nat
  groups_events : zhashx (List String)

def csv_context_create (sensor_name output_dir : String) : csv_context :=
  ⟨⟨sensor_name, output_dir⟩, [], []⟩

inductive csv_call where
  | open (path : String)
  | fdopen (fd : Int)
  | close (fd : Int)
  | fprintf (file : Nat) (line : List Char)

def csv_answer : csv_call → Type
  | .open _ => Int
  | .fdopen _ => Option Nat
  | .close _ => Unit
  | .fprintf _ _ => Int

abbrev csv_program (α : Type) := Prog csv_call csv_answer α

def open_outfile (path : String) : csv_program Int :=
  perform (csv_call.open path)

def fdopen (fd : Int) : csv_program (Option Nat) :=
  perform (csv_call.fdopen fd)

def close (fd : Int) : csv_program Unit :=
  perform (csv_call.close fd)

def fprintf (file : Nat) (line : List Char) : csv_program Int :=
  perform (csv_call.fprintf file line)

-- The line under construction: the string in the buffer and the position the
-- code believes to be at, which runs on when a text is cut off. A text has one
-- character for each byte of the C string.
structure line_buffer where
  text : List Char
  pos : Nat

def line_buffer.snprintf (buffer : line_buffer) (s : List Char) : line_buffer where
  text := buffer.text ++ s.take (CSV_LINE_BUFFER_SIZE - 1 - buffer.pos)
  pos := buffer.pos + s.length

def decimal (value : Nat) : List Char :=
  Nat.toDigits 10 value

-- `*event_value`, read as a `uint64_t` whatever the pointer leads to. A
-- callchain lies in a zeroed block of at least eight bytes.
def read_uint64 : event_value → Nat
  | .counter value => value
  | .callchain text =>
      decode ((text.map (fun c : Char => UInt8.ofNat c.toNat) ++ List.replicate 8 0).take 8)

def append_names : line_buffer → List String → Option line_buffer
  | buffer, [] => some buffer
  | buffer, event_name :: rest =>
      let buffer := buffer.snprintf (',' :: event_name.toList)
      if buffer.pos ≥ CSV_LINE_BUFFER_SIZE then none else append_names buffer rest

def append_values (events : zhashx event_value) : line_buffer → List String → Option line_buffer
  | buffer, [] => some buffer
  | buffer, event_name :: rest =>
      match zhashx_lookup events event_name with
      | none => none
      | some event_value =>
          let buffer := buffer.snprintf (',' :: decimal (read_uint64 event_value))
          if buffer.pos ≥ CSV_LINE_BUFFER_SIZE then none else append_values events buffer rest

def header_fixed : List Char :=
  "timestamp,sensor,target,socket,cpu".toList

def row_fixed (sensor_name : String) (timestamp : Nat) (target socket cpu : String) :
    List Char :=
  decimal timestamp ++ ',' :: sensor_name.toList ++ ',' :: target.toList ++
    ',' :: socket.toList ++ ',' :: cpu.toList

def sorted_names (events : zhashx event_value) : List String :=
  (zhashx_keys events).insertionSort (· ≤ ·)

section

variable (order : hash_order)

def write_group_header (ctx : csv_context) (group : String) (file : Nat)
    (events : zhashx event_value) : csv_program (Int × csv_context) :=
  match append_names (line_buffer.snprintf ⟨[], 0⟩ header_fixed) (sorted_names events) with
  | none => pure (-1, ctx)
  | some buffer => do
      let written ← fprintf file (buffer.text ++ ['\n'])
      if written < 0 then pure (-1, ctx)
      else
        pure (0, { ctx with
          groups_events := zhashx_insert order ctx.groups_events group (sorted_names events) })

def outfile_path (ctx : csv_context) (group_name : String) : String :=
  ctx.config.output_dir ++ "/" ++ group_name ++ ".csv"

def open_group_outfile (ctx : csv_context) (group_name : String) :
    csv_program (Int × csv_context) :=
  if (outfile_path ctx group_name).length ≥ PATH_MAX then pure (-1, ctx)
  else do
    let fd ← open_outfile (outfile_path ctx group_name)
    if fd = -1 then pure (-1, ctx)
    else
      let file ← fdopen fd
      match file with
      | none => do
          close fd
          pure (-1, ctx)
      | some file =>
          pure (0, { ctx with groups_fd := zhashx_insert order ctx.groups_fd group_name file })

def write_events_value (ctx : csv_context) (group : String) (file : Nat) (timestamp : Nat)
    (target socket cpu : String) (events : zhashx event_value) : csv_program Int :=
  match zhashx_lookup ctx.groups_events group with
  | none => pure (-1)
  | some events_name =>
      match append_values events
        (line_buffer.snprintf ⟨[], 0⟩
          (row_fixed ctx.config.sensor_name timestamp target socket cpu)) events_name with
      | none => pure (-1)
      | some buffer => do
          let written ← fprintf file (buffer.text ++ ['\n'])
          if written < 0 then pure (-1) else pure 0

-- The loops of `csv_store_report` share the flag that asks for a header.
structure store_state where
  ctx : csv_context
  write_header : Bool

def store_cpu (group : String) (file timestamp : Nat) (target socket cpu : String)
    (cpu_data : payload_cpu_data) (s : store_state) : csv_program (Int × store_state) := do
  let header ←
    if s.write_header then write_group_header order s.ctx group file cpu_data.events
    else pure (0, s.ctx)
  if header.1 ≠ 0 then pure (-1, { s with ctx := header.2 })
  else
    let err ← write_events_value header.2 group file timestamp target socket cpu cpu_data.events
    if err ≠ 0 then pure (-1, ⟨header.2, false⟩) else pure (0, ⟨header.2, false⟩)

def store_cpus (group : String) (file timestamp : Nat) (target socket : String) :
    zhashx payload_cpu_data → store_state → csv_program (Int × store_state)
  | [], s => pure (0, s)
  | (cpu, cpu_data) :: rest, s => do
      let stored ← store_cpu order group file timestamp target socket cpu cpu_data s
      if stored.1 ≠ 0 then pure (-1, stored.2)
      else store_cpus group file timestamp target socket rest stored.2

def store_pkgs (group : String) (file timestamp : Nat) (target : String) :
    zhashx payload_pkg_data → store_state → csv_program (Int × store_state)
  | [], s => pure (0, s)
  | (pkg, pkg_data) :: rest, s => do
      let stored ← store_cpus order group file timestamp target pkg pkg_data.cpus s
      if stored.1 ≠ 0 then pure (-1, stored.2)
      else store_pkgs group file timestamp target rest stored.2

-- The file of a group is opened at the first report that has the group.
def group_outfile (group : String) (s : store_state) : csv_program (Option Nat × store_state) :=
  match zhashx_lookup s.ctx.groups_fd group with
  | some file => pure (some file, s)
  | none => do
      let opened ← open_group_outfile order s.ctx group
      if opened.1 ≠ 0 then pure (none, { s with ctx := opened.2 })
      else pure (zhashx_lookup opened.2.groups_fd group, ⟨opened.2, true⟩)

def store_groups (timestamp : Nat) (target : String) :
    zhashx payload_group_data → store_state → csv_program (Int × store_state)
  | [], s => pure (0, s)
  | (group, group_data) :: rest, s => do
      let outfile ← group_outfile order group s
      match outfile.1 with
      | none => pure (-1, outfile.2)
      | some file => do
          let stored ← store_pkgs order group file timestamp target group_data.pkgs outfile.2
          if stored.1 ≠ 0 then pure (-1, stored.2)
          else store_groups timestamp target rest stored.2

def csv_store_report (ctx : csv_context) (payload : payload) :
    csv_program (Int × csv_context) := do
  let stored ← store_groups order payload.timestamp payload.target_name payload.groups ⟨ctx, false⟩
  pure (stored.1, stored.2.ctx)

end

end HwpcSensor.Storage
