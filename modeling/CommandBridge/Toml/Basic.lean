import CommandBridge.Keyed

/-!
# TOML documents

A document is a table. A table remembers how it came about, for that decides what may
still be added to it: a table under a header is closed to a second header, one made by
a dotted key to any header, and an inline table to all.
-/

set_option autoImplicit false

namespace CommandBridge

inductive TableOrigin where
  | passed
  | header | dotted | inline
deriving DecidableEq, Repr

inductive Toml where
  | string (text : String)
  | integer (value : Int)
  | float (spelling : String)
  | boolean (value : Bool)
  | time (spelling : String)
  | array (items : List Toml)
  | table (origin : TableOrigin) (members : List (String × Toml))
  /-- Tables under repeated headers: those before the last, and the last. -/
  | tables (before : List Toml) (last : List (String × Toml))

namespace Toml

abbrev Members := List (String × Toml)

instance : Inhabited Toml := ⟨.boolean false⟩

/-- Puts a value under a dotted key. A key is given once. A table that headers only passed
on the way may be passed here too, but a dotted key adds no value to it. -/
def assign (v : Toml) : List String → Members → Option Members
  | [], _ => none
  | [key], ms => if Keyed.contains key ms then none else some (Keyed.insert key v ms)
  | key :: rest, ms =>
    match Keyed.lookup key ms with
    | none => (assign v rest []).map fun inner => Keyed.insert key (.table .dotted inner) ms
    | some (.table .dotted inner) =>
      (assign v rest inner).map fun inner => Keyed.insert key (.table .dotted inner) ms
    | some (.table .passed inner) =>
      if rest.length ≤ 1 then none
      else (assign v rest inner).map fun inner => Keyed.insert key (.table .passed inner) ms
    | some _ => none

/-- Changes the table that a header's names lead to, going into the last of repeated
tables. Tables on the way come about when they are missing. -/
def descend (f : Members → Option Members) : List String → Members → Option Members
  | [], ms => f ms
  | key :: rest, ms =>
    match Keyed.lookup key ms with
    | none => (descend f rest []).map fun inner => Keyed.insert key (.table .passed inner) ms
    | some (.table .inline _) => none
    | some (.table origin inner) =>
      (descend f rest inner).map fun inner => Keyed.insert key (.table origin inner) ms
    | some (.tables before last) =>
      (descend f rest last).map fun last => Keyed.insert key (.tables before last) ms
    | some _ => none

def openTable (name : String) (ms : Members) : Option Members :=
  match Keyed.lookup name ms with
  | none => some (Keyed.insert name (.table .header []) ms)
  | some (.table .passed inner) => some (Keyed.insert name (.table .header inner) ms)
  | some _ => none

def openNext (name : String) (ms : Members) : Option Members :=
  match Keyed.lookup name ms with
  | none => some (Keyed.insert name (.tables [] []) ms)
  | some (.tables before last) =>
    some (Keyed.insert name (.tables (before ++ [.table .header last]) []) ms)
  | some _ => none

inductive Line where
  | pair (key : List String) (value : Toml)
  | header (names : List String)
  | nextHeader (names : List String)

structure Document where
  members : Members
  current : List String

namespace Document

def empty : Document := ⟨[], []⟩

def under (d : Document) (names : List String) (f : String → Members → Option Members) :
    Option Document :=
  (descend (f (names.getLast?.getD "")) names.dropLast d.members).map fun ms => ⟨ms, names⟩

def add (d : Document) : Line → Option Document
  | .pair key v => (descend (assign v key) d.current d.members).map fun ms => ⟨ms, d.current⟩
  | .header names => d.under names openTable
  | .nextHeader names => d.under names openNext

end Document
end Toml
end CommandBridge
