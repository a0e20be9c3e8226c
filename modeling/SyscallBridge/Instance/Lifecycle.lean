import SyscallBridge.Instance.Event
import SyscallBridge.Notice

/-!
# The life of an instance

The host creates one instance and tells it events; the program registers its handlers at a time
of its own. What comes before the handlers do waits in a queue: on registration the handlers are
given the creation and then the queue, in the order of arrival.

A handler may panic. Nothing is undone then: the lifecycle stays as it was when the handler was
called, and goes on from there.
-/

namespace SyscallBridge

/-- What a handler does with an event. -/
inductive Verdict where
  | answers (handled : Bool)
  | panics (text : String)
  deriving DecidableEq, Repr

/-- The handlers of a program: what they do with an event may depend on all they received before.
A journal says whether anyone wants to see what they receive. -/
structure Handlers where
  respond : List Event → Event → Verdict
  journal : Bool := false

namespace Handlers

/-- Handlers that accept the creation and consume nothing. -/
def quiet : Handlers where
  respond _ e := match e with
    | .documentLoad _ | .input _ => .answers false
    | _ => .answers true

end Handlers

inductive Phase where
  | uninitialized | awaitingHandlers | active | destroyed
  deriving DecidableEq, Repr, Inhabited

structure Lifecycle where
  phase : Phase := .uninitialized
  /-- Creation arguments that no handler has been given yet. -/
  arguments : Option (List (String × String)) := none
  waiting : List Event := []
  handlers : Option Handlers := none
  /-- All that handlers have been called with. -/
  received : List Event := []

/-- How a delivery or a registration ends. -/
inductive Ending (α : Type) where
  | returns (a : α)
  | fails (e : CallError)
  | panics (text : String)
  deriving Repr

/-- A delivery or registration: the new state, how it ended, and what it gave notice of. -/
structure Delivery (α : Type) where
  state : Lifecycle
  ending : Ending α
  notices : List Notice := []

namespace Lifecycle

/-- Calls the handlers. -/
def call (l : Lifecycle) (h : Handlers) (e : Event) : Verdict × Lifecycle :=
  (h.respond l.received e, { l with received := l.received ++ [e] })

/-- Events that carry no verdict are handled when their handler returns. -/
def handled : Event → Bool → Bool
  | .create _, b | .documentLoad _, b | .input _, b => b
  | _, _ => true

/-- Gives an event to the handlers; a destroyed instance has none any more. -/
def deliverLive (l : Lifecycle) (e : Event) : Delivery Bool :=
  match l.handlers with
  | none => ⟨l, .returns false, []⟩
  | some h =>
    match l.call h e with
    | (.panics text, l) => ⟨l, .panics text, []⟩
    | (.answers b, l) =>
      let l := if e.isDestroy then { l with phase := .destroyed, handlers := none } else l
      ⟨l, .returns (handled e b), []⟩

/-- Gives the waiting events to the handlers, the first one first. What waits behind the
destruction is dropped. -/
def replay (l : Lifecycle) : List Event → Delivery Bool
  | [] => ⟨{ l with waiting := [] }, .returns true, []⟩
  | e :: rest =>
    if l.phase = .destroyed then replay l rest
    else
      let d := deliverLive { l with waiting := rest } e
      match d.ending with
      | .panics text => ⟨d.state, .panics text, d.notices⟩
      | _ => replay d.state rest

/-- Ends an instance whose creation the handlers refused. They are told of its destruction if that
has arrived already. -/
def refuse (l : Lifecycle) (h : Handlers) : Delivery Bool :=
  let told := l.waiting.any Event.isDestroy
  let l := { l with phase := .destroyed, waiting := [] }
  if told then
    match l.call h .destroy with
    | (.panics text, l) => ⟨l, .panics text, [.creationFailed]⟩
    | (.answers _, l) => ⟨{ l with handlers := none }, .returns false, [.creationFailed]⟩
  else ⟨{ l with handlers := none }, .returns false, [.creationFailed]⟩

/-- Creates the instance and replays what is waiting. -/
def activate (l : Lifecycle) (arguments : List (String × String)) : Delivery Bool :=
  match l.handlers with
  | none => ⟨l, .returns false, []⟩
  | some h =>
    match l.call h (.create arguments) with
    | (.panics text, l) => ⟨l, .panics text, []⟩
    | (.answers false, l) => l.refuse h
    | (.answers true, l) => replay { l with phase := .active } l.waiting

def create (l : Lifecycle) (arguments : List (String × String)) : Delivery Bool :=
  if l.phase ≠ .uninitialized then ⟨l, .fails .duplicateInstance, []⟩
  else if l.handlers.isSome then l.activate arguments
  else ⟨{ l with phase := .awaitingHandlers, arguments := some arguments }, .returns true, []⟩

/-- Delivers an event. One that has to wait counts as not handled. -/
def deliver (l : Lifecycle) : Event → Delivery Bool
  | .create arguments => l.create arguments
  | e =>
    match l.phase with
    | .active => l.deliverLive e
    | .uninitialized | .awaitingHandlers =>
      ⟨{ l with waiting := l.waiting ++ [e] }, .returns false, []⟩
    | .destroyed => ⟨l, .returns false, []⟩

/-- Registers handlers, and creates the instance if the host has asked for that. -/
def register (l : Lifecycle) (h : Handlers) : Delivery Unit :=
  if l.handlers.isSome ∨ l.phase = .active ∨ l.phase = .destroyed then
    ⟨l, .fails (.invalidState "handlers already registered"), []⟩
  else
    let l := { l with handlers := some h }
    match l.arguments with
    | none => ⟨l, .returns (), []⟩
    | some arguments =>
      let d := activate { l with arguments := none } arguments
      match d.ending with
      | .panics text => ⟨d.state, .panics text, d.notices⟩
      | _ => ⟨d.state, .returns (), d.notices⟩

end Lifecycle

end SyscallBridge
