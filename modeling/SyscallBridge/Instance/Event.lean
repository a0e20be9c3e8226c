import SyscallBridge.Json.Value

/-!
# Events of an instance

What the host tells an instance, with the JSON forms of a view and of an input event. Both forms
refuse a known key given twice and ignore unknown keys; a structure may also be an array of its
values in order.
-/

namespace SyscallBridge

structure Rect where
  x : Int := 0
  y : Int := 0
  width : Int := 0
  height : Int := 0
  deriving DecidableEq, Repr, Inhabited

/-- Position, size and visibility of an instance on its page. -/
structure View where
  rect : Rect := {}
  clipRect : Rect := {}
  fullscreen : Bool := false
  visible : Bool := true
  pageVisible : Bool := true
  cssScale : Float32 := 1
  deviceScale : Float32 := 1
  deriving Repr, Inhabited

structure Modifiers where
  shift : Bool
  ctrl : Bool
  alt : Bool
  metaKey : Bool
  deriving DecidableEq, Repr, Inhabited

inductive InputEvent where
  | keyDown (key code : String) (modifiers : Modifiers)
  | keyUp (key code : String) (modifiers : Modifiers)
  | char (text : String) (modifiers : Modifiers)
  | mouseDown (x y : Float32) (button : Nat)
  | mouseMove (x y : Float32)
  | mouseUp (x y : Float32) (button : Nat)
  | wheel (dx dy : Float32) (modifiers : Modifiers)
  deriving Repr, Inhabited

inductive Event where
  | create (arguments : List (String × String))
  | destroy
  | view (v : View)
  | focus (focused : Bool)
  | documentLoad (loader : Int)
  | input (e : InputEvent)
  | contextLost
  | message (m : Json)
  | mouseLockLost
  deriving Inhabited

namespace Event

def name : Event → String
  | create _ => "did_create"
  | destroy => "did_destroy"
  | view _ => "did_change_view"
  | focus _ => "did_change_focus"
  | documentLoad _ => "handle_document_load"
  | input _ => "handle_input_event"
  | contextLost => "graphics_3d_context_lost"
  | message _ => "handle_message"
  | mouseLockLost => "mouse_lock_lost"

def isCreate : Event → Bool
  | create _ => true
  | _ => false

def isDestroy : Event → Bool
  | destroy => true
  | _ => false

end Event

/-- An integer of 32 bits. -/
def Json.Number.int32? (n : Json.Number) : Option Int :=
  n.integer?.bind fun i => if -2147483648 ≤ i ∧ i < 2147483648 then some i else none

/-- The fields with decoded keys, when no known key is given twice. -/
def Json.knownFields? (keys : List String) (fields : List (List Json.StringPart × Json.Tree)) :
    Option (List (String × Json.Tree)) := do
  let fields ← fields.mapM fun f => (Json.decodeString? f.1).map (·, f.2)
  if distinctKeys keys fields then some fields else none

namespace Rect

def keys : List String := ["x", "y", "width", "height"]

def side? (get : String → Option Json.Tree) (key : String) : Option Int :=
  match get key with
  | some (.number n) => n.value?.bind Json.Number.int32?
  | _ => none

def ofFields? (get : String → Option Json.Tree) : Option Rect := do
  return ⟨← side? get "x", ← side? get "y", ← side? get "width", ← side? get "height"⟩

/-- All four sides must be given. -/
def ofTree? : Json.Tree → Option Rect
  | .object fields => Json.knownFields? keys fields >>= fun fields => ofFields? (field? fields)
  | .array items => if items.length = 4 then ofFields? (field? (keys.zip items)) else none
  | _ => none

end Rect

namespace View

def keys : List String := ["rect", "clip_rect", "fullscreen", "visible", "page_visible",
  "css_scale", "device_scale"]

def flag? (default : Bool) : Option Json.Tree → Option Bool
  | none => some default
  | some (.bool b) => some b
  | some _ => none

def scale? : Option Json.Tree → Option Float32
  | none => some 1
  | some (.number n) => n.value?.map Json.Number.toFloat32
  | some _ => none

def rect? : Option Json.Tree → Option Rect
  | none => some {}
  | some t => Rect.ofTree? t

def ofFields? (get : String → Option Json.Tree) : Option View := do
  return {
    rect := ← rect? (get "rect")
    clipRect := ← rect? (get "clip_rect")
    fullscreen := ← flag? false (get "fullscreen")
    visible := ← flag? true (get "visible")
    pageVisible := ← flag? true (get "page_visible")
    cssScale := ← scale? (get "css_scale")
    deviceScale := ← scale? (get "device_scale") }

/-- What is not given keeps its default. -/
def ofTree? : Json.Tree → Option View
  | .object fields => Json.knownFields? keys fields >>= fun fields => ofFields? (field? fields)
  | .array items =>
    if keys.length < items.length then none else ofFields? (field? (keys.zip items))
  | _ => none

def parse? (text : String) : Option View := Json.read? text >>= ofTree?

end View

/-- The values of a structure by key. An object may have other keys and none of these twice; an
array gives one value for each key. -/
def Json.record? (keys : List String) : Json → Option (String → Option Json)
  | .object fields => if distinctKeys keys fields then some (field? fields) else none
  | .array items => if items.length = keys.length then some (field? (keys.zip items)) else none
  | _ => none

namespace InputEvent

def text? : Option Json → Option String
  | some (.string s) => some s
  | _ => none

def flag? : Option Json → Option Bool
  | some (.bool b) => some b
  | _ => none

def coordinate? : Option Json → Option Float32
  | some (.number n) => some n.toFloat32
  | _ => none

def button? : Option Json → Option Nat
  | some (.number (.natural n)) => if n.toNat < 65536 then some n.toNat else none
  | _ => none

def modifiers? : Option Json → Option Modifiers
  | some j => do
    let get ← j.record? ["shift", "ctrl", "alt", "meta"]
    return ⟨← flag? (get "shift"), ← flag? (get "ctrl"), ← flag? (get "alt"), ← flag? (get "meta")⟩
  | none => none

/-- The keys of each kind of event, in the order in which an array gives their values. -/
def keys? : String → Option (List String)
  | "key_down" | "key_up" => some ["key", "code", "modifiers"]
  | "char" => some ["text", "modifiers"]
  | "mouse_down" | "mouse_up" => some ["x", "y", "button"]
  | "mouse_move" => some ["x", "y"]
  | "wheel" => some ["dx", "dy", "modifiers"]
  | _ => none

def ofFields? (kind : String) (get : String → Option Json) : Option InputEvent :=
  match kind with
  | "key_down" => do
    return .keyDown (← text? (get "key")) (← text? (get "code")) (← modifiers? (get "modifiers"))
  | "key_up" => do
    return .keyUp (← text? (get "key")) (← text? (get "code")) (← modifiers? (get "modifiers"))
  | "char" => do return .char (← text? (get "text")) (← modifiers? (get "modifiers"))
  | "mouse_down" => do
    return .mouseDown (← coordinate? (get "x")) (← coordinate? (get "y")) (← button? (get "button"))
  | "mouse_move" => do return .mouseMove (← coordinate? (get "x")) (← coordinate? (get "y"))
  | "mouse_up" => do
    return .mouseUp (← coordinate? (get "x")) (← coordinate? (get "y")) (← button? (get "button"))
  | "wheel" => do
    return .wheel (← coordinate? (get "dx")) (← coordinate? (get "dy"))
      (← modifiers? (get "modifiers"))
  | _ => none

/-- The kind stands under `type` in an object, given once, and in front in an array. -/
def ofJson? : Json → Option InputEvent
  | .object fields => do
    let kind ← text? (field? fields "type")
    let keys ← keys? kind
    let get ← if distinctKeys ["type"] fields then Json.record? keys (.object fields) else none
    ofFields? kind get
  | .array (.string kind :: items) => do
    let get ← Json.record? (← keys? kind) (.array items)
    ofFields? kind get
  | _ => none

def parse? (text : String) : Option InputEvent := Json.parse? text >>= ofJson?

end InputEvent

end SyscallBridge
