import HwpcSensor.Events
import HwpcSensor.Util

namespace HwpcSensor

def DT_REG : Nat := 8
def DT_LNK : Nat := 10

structure dirent where
  d_type : Nat
  d_name : String
  deriving DecidableEq

-- `/sys/bus/cpu/devices`: the listing of the directory, and what the files
-- `online` and `topology/physical_package_id` of its entries hold.
structure sysfs_cpus where
  entries : Option (List dirent)
  online : String → Option (List Char)
  physical_package_id : String → Option (List Char)

-- One line, with its newline, as far as it fits; `none` at the end of the file.
def fgets_first (size : Nat) (content : List Char) : Option (List Char) :=
  if content = [] then none
  else
    match (content.take (size - 1)).span (· ≠ '\n') with
    | (line, []) => some line
    | (line, newline :: _) => some (line ++ [newline])

-- A cpu without the file cannot be disabled.
def get_cpu_online_status (sysfs : sysfs_cpus) (cpu_dir : String) : Bool :=
  match (sysfs.online cpu_dir).bind (fgets_first 2) with
  | none => true
  | some buffer => buffer.head? ≠ some '0'

-- `strndup(buffer, strlen(buffer) - 1)`
def get_package_id (sysfs : sysfs_cpus) (cpu_dir : String) : Option String :=
  ((sysfs.physical_package_id cpu_dir).bind (fgets_first 24)).map fun buffer =>
    String.ofList ((c_string buffer).take (strlen buffer - 1))

-- `^cpu([0-9]+)$`, where without `REG_NEWLINE` the anchors are the ends of the
-- string.
def parse_cpu_id_from_name (str : String) : Option String :=
  match str.toList with
  | 'c' :: 'p' :: 'u' :: digits =>
      if digits ≠ [] ∧ digits.all Char.isDigit then some (String.ofList digits) else none
  | _ => none

def hwinfo_pkg_create : hwinfo_pkg := ⟨[]⟩

def hwinfo_pkg_dup (pkg : hwinfo_pkg) : hwinfo_pkg := ⟨pkg.cpus_id⟩

-- `zlistx_add_end` on the list of the package that the table holds.
def add_cpu_id (pkgs : zhashx hwinfo_pkg) (pkg_id cpu_id : String) : zhashx hwinfo_pkg :=
  pkgs.map fun item =>
    if item.1 = pkg_id then (item.1, { item.2 with cpus_id := item.2.cpus_id ++ [cpu_id] })
    else item

section

variable (order : hash_order)

-- The cpu goes to the package in the table, which is a copy of the new one when
-- there was none.
def store_cpu_id (pkgs : zhashx hwinfo_pkg) (pkg_id cpu_id : String) : zhashx hwinfo_pkg :=
  match zhashx_lookup pkgs pkg_id with
  | some _ => add_cpu_id pkgs pkg_id cpu_id
  | none =>
      add_cpu_id (zhashx_insert order pkgs pkg_id (hwinfo_pkg_dup hwinfo_pkg_create)) pkg_id cpu_id

-- The type is tested as if it were a set of flags.
def Considered (entry : dirent) : Prop :=
  entry.d_type &&& DT_LNK ≠ 0 ∧ entry.d_name.toList.head? ≠ some '.'

instance (entry : dirent) : Decidable (Considered entry) :=
  inferInstanceAs (Decidable (_ ∧ _))

def detect_packages (sysfs : sysfs_cpus) :
    List dirent → zhashx hwinfo_pkg → Int × zhashx hwinfo_pkg
  | [], pkgs => (0, pkgs)
  | entry :: rest, pkgs =>
      if Considered entry then
        if get_cpu_online_status sysfs entry.d_name = false then detect_packages sysfs rest pkgs
        else
          match parse_cpu_id_from_name entry.d_name with
          | none => (-1, pkgs)
          | some cpu_id =>
              match get_package_id sysfs entry.d_name with
              | none => (-1, pkgs)
              | some pkg_id => detect_packages sysfs rest (store_cpu_id order pkgs pkg_id cpu_id)
      else detect_packages sysfs rest pkgs

def do_packages_detection (sysfs : sysfs_cpus) (hwinfo : hwinfo) : Int × HwpcSensor.hwinfo :=
  match sysfs.entries with
  | none => (-1, hwinfo)
  | some entries =>
      let detected := detect_packages order sysfs entries hwinfo.pkgs
      (detected.1, ⟨detected.2⟩)

end

def hwinfo_create : hwinfo := ⟨[]⟩

end HwpcSensor
