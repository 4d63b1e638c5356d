import LogTriage.Timestamp.Extraction

/-! # Engines

Searches are carried out by an engine, which may give one up: a pattern that compiles can still be too
large to be run, or need more room than the engine keeps. Neither can a call pass on any number of values.
An engine is known by when it gives up, and with which error. Where it does not, it finds what there is to
find. Instants, names and flags are read by functions of this library, without an engine. Memory is taken to
suffice.
-/

namespace LogTriage

set_option autoImplicit false

/-- The copy of a pattern that searches are made with. -/
def Pattern.copy (p : Pattern) (global : Bool) : Pattern :=
  { p with
    source := p.written
    flags := { p.flags with global := global, sticky := false } }

/-- The error with which an engine gives up. -/
structure Failure where
  name : String
  message : Text
  deriving DecidableEq

structure Engine where
  /-- The failure of the search for a pattern in a text, from a position on. -/
  search : Pattern → Text → Nat → Option Failure
  /-- The failure of a call that passes on so many values. -/
  call : Nat → Option Failure

namespace Engine

open Pattern (Cursor Found resume)

def tireless : Engine := ⟨fun _ _ _ => none, fun _ => none⟩

variable {α : Type}

def unlessFailed (failure : Option Failure) (value : Unit → α) : Except Failure α :=
  match failure with
  | some failure => .error failure
  | none => .ok (value ())

def find (e : Engine) (p : Pattern) (t : Text) (c : Cursor) : Except Failure (Option Found) :=
  unlessFailed (e.search (p.copy true) t c.index) fun _ => p.find c

/-- What `f` makes of the matches, each before the next one is looked for; the units of `room` bound
their number. -/
def visit (e : Engine) (p : Pattern) (t : Text) (f : Found → Except Failure α) :
    Text → Cursor → Except Failure (List α)
  | [], c => do
    match ← e.find p t c with
    | none => return []
    | some m => return [← f m]
  | _ :: room, c => do
    match ← e.find p t c with
    | none => return []
    | some m =>
      let first ← f m
      match resume p.stepOver m with
      | none => return [first]
      | some next => return first :: (← visit e p t f room next)

def scan (e : Engine) (p : Pattern) (t : Text) (f : Found → Except Failure α) :
    Except Failure (List α) :=
  e.visit p t f t (Cursor.start t)

def extract (e : Engine) (stamps : Pattern) (content : Text) (p : Nat) : Except Failure (Option Text) :=
  unlessFailed (e.search (stamps.copy false) (Text.lineAt content p) 0) fun _ =>
    Timestamp.extract stamps content p

/-- Values passed on in one call. -/
def pass (e : Engine) (values : List α) : Except Failure (List α) :=
  unlessFailed (e.call values.length) fun _ => values

end Engine
end LogTriage
