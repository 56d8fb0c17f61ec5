/-!
# TOML values

A TOML document as a table. A table remembers how it came to be, since that decides who may add to
it: a table in braces is closed; one with a header of its own may get tables inside it; one that
was only implied by a header inside it may still get its own header; one that came with a dotted
key takes further dotted keys.
-/

namespace WifiTrust

namespace Toml

/-- How a table came to be. -/
inductive Origin where
  | braces
  | header
  | implied
  | dotted
  deriving DecidableEq, Repr

end Toml

inductive Toml where
  | string (text : List Char)
  | integer (i : Int)
  | float (spelling : List Char)
  /-- A date, a time or both. -/
  | moment (spelling : List Char)
  | boolean (b : Bool)
  | array (items : List Toml)
  | table (origin : Toml.Origin) (entries : List (List Char × Toml))
  /-- Tables that share a header in double brackets. -/
  | tables (elements : List (List (List Char × Toml)))
  deriving Inhabited

namespace Toml

abbrev Key := List Char

/-- Keys with their values, in the order of their first mention. -/
abbrev Entries := List (Key × Toml)

namespace Entries

def get? (es : Entries) (key : Key) : Option Toml := (es.find? (·.1 = key)).map (·.2)

def replace (es : Entries) (key : Key) (v : Toml) : Entries :=
  es.map fun e => if e.1 = key then (key, v) else e

def enter (es : Entries) (key : Key) (v : Toml) : Option Entries :=
  match es.get? key with
  | none => some (es ++ [(key, v)])
  | some _ => none

/-- Enter a value under a dotted key. The tables on the way must come from dotted keys as well, or
be implied by headers if there are more on the way; the last one must come from a dotted key. -/
def assign (v : Toml) : List Key → Key → Entries → Option Entries
  | [], key, es => es.enter key v
  | k :: ks, key, es =>
      match es.get? k with
      | none => (assign v ks key []).map fun sub => es ++ [(k, .table .dotted sub)]
      | some (.table .dotted sub) =>
          (assign v ks key sub).map fun sub => es.replace k (.table .dotted sub)
      | some (.table .implied sub) =>
          if ks = [] then none
          else (assign v ks key sub).map fun sub => es.replace k (.table .implied sub)
      | some (.tables elements) =>
          match ks, elements.getLast? with
          | _ :: _, some last =>
              (assign v ks key last).map fun last =>
                es.replace k (.tables (elements.dropLast ++ [last]))
          | _, _ => none
      | some _ => none

/-- Change the table behind the keys of a header. What is missing on the way is implied, and of
tables that share a header the last is meant. -/
def inside (change : Entries → Option Entries) : List Key → Entries → Option Entries
  | [], es => change es
  | k :: ks, es =>
      match es.get? k with
      | none => (inside change ks []).map fun sub => es ++ [(k, .table .implied sub)]
      | some (.table origin sub) =>
          if origin = .braces then none
          else (inside change ks sub).map fun sub => es.replace k (.table origin sub)
      | some (.tables elements) =>
          match elements.getLast? with
          | some last =>
              (inside change ks last).map fun last =>
                es.replace k (.tables (elements.dropLast ++ [last]))
          | none => none
      | some _ => none

/-- Open a table by its header. Only an implied one may be there already. -/
def openTable (key : Key) (es : Entries) : Option Entries :=
  match es.get? key with
  | none => some (es ++ [(key, .table .header [])])
  | some (.table .implied sub) => some (es.replace key (.table .header sub))
  | some _ => none

def openElement (key : Key) (es : Entries) : Option Entries :=
  match es.get? key with
  | none => some (es ++ [(key, .tables [[]])])
  | some (.tables elements) => some (es.replace key (.tables (elements ++ [[]])))
  | some _ => none

end Entries

end Toml

end WifiTrust
