import Mathlib.Data.List.Basic

namespace HwpcSensor.Getopt

-- What a call of `getopt` finds: an option without an argument, an option with
-- one, or an error.
inductive found where
  | flag (c : Char)
  | value (c : Char) (optarg : String)
  | error
  deriving DecidableEq

-- Whether an option takes an argument, when it is one of the options.
def takes_argument (optstring : List Char) (c : Char) : Option Bool :=
  if c = ':' ∨ c = ';' then none
  else
    match optstring.dropWhile (· ≠ c) with
    | [] => none
    | _ :: rest => some (rest.head? = some ':')

-- How an argument that holds options ends: the next argument is looked at, or it
-- is the value of an option, or there was an error.
inductive cluster_end where
  | done
  | needs (c : Char)
  | failed

def cluster (optstring : List Char) : List Char → List found × cluster_end
  | [] => ([], .done)
  | c :: rest =>
      match takes_argument optstring c with
      | none => ([.error], .failed)
      | some false =>
          let more := cluster optstring rest
          (.flag c :: more.1, more.2)
      | some true =>
          if rest = [] then ([], .needs c) else ([.value c (String.ofList rest)], .done)

-- The arguments after the name of the program. What is not an option is skipped
-- wherever it stands, and nothing after an error is looked at.
def scan (optstring : List Char) : Option Char → List String → List found
  | some _, [] => [.error]
  | none, [] => []
  | some c, arg :: rest => .value c arg :: scan optstring none rest
  | none, arg :: rest =>
      match arg.toList with
      | ['-', '-'] => []
      | '-' :: c :: cs =>
          let found := cluster optstring (c :: cs)
          match found.2 with
          | .done => found.1 ++ scan optstring none rest
          | .needs c => found.1 ++ scan optstring (some c) rest
          | .failed => found.1
      | _ => scan optstring none rest

def getopt (optstring : String) (argv : List String) : List found :=
  scan optstring.toList none (argv.drop 1)

example : getopt "vs:" ["sensor", "-vsx", "y", "-s", "--", "-z"] =
    [.flag 'v', .value 's' "x", .value 's' "--", .error] := by decide

end HwpcSensor.Getopt
