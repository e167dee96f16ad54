import Cordia.Client.Parse
/-!
# Device ids and labels (`src-tauri/src/audio_capture.rs:24-145`)

`enumerate_devices` (`:53-91`) names the `idx`-th input device `input_{idx}` and the `idx`-th
output device `output_{idx}`, and cleans each label with `clean_device_label` (`:94-110`).
`start_capture` (`:124-144`) takes such an id back. Once its leading `stop_capture` has returned,
it strips `input_`, parses the rest as a `usize`, and selects that input device (`selectDevice`);
`Cordia.Audio.Control` models the call as a whole.

The two meet at the id. As long as the host reports the same input devices to both calls, an
input listed by `enumerate_devices` selects the device it was listed for, and an output is refused
with `Invalid device ID format` (`selectDevice_enumerated`). The parse is `usize::from_str`, so
`input_07` and `input_+7` select the same device as `input_7` (`selectDevice_eq_ok_iff`).

`clean_device_label` removes three Windows prefixes, then runs a `while let` loop. The loop cuts
from the first `(0x` to the next `)`, and stops when there is no `(0x`, or no `)` after it. It
terminates, because each pass removes at least the four characters of `(0x` and `)`. No label it
returns has `(0x` followed later by `)` (`cleanDeviceLabel_no_vendorId`). The prefixes are removed
before the loop, so a prefix the loop brings together stays in the label.

cpal's devices and errors are arguments: the devices in the order the host lists them, a device's
name or the text of the error `name()` returned, and the text of the error of `input_devices()` or
`output_devices()`.
-/

namespace Cordia.Audio

open Cordia.Client

/-- `AudioDeviceKind` (`:32-38`). -/
inductive AudioDeviceKind where
  | input
  | output
deriving DecidableEq, Repr

/-- `AudioDevice` (`:24-30`). -/
structure AudioDevice where
  deviceId : String
  label : String
  kind : AudioDeviceKind
deriving DecidableEq, Repr

/-! ## `clean_device_label` -/

/-- The `while let` loop of `clean_device_label` (`:101-107`): cut from the first `(0x` to the
next `)`, both included. Each pass removes at least four characters. -/
def removeVendorIds (s : List Char) : List Char :=
  match h : Str.find s "(0x".data with
  | none => s
  | some start =>
    match h' : Str.find (s.drop start) [')'] with
    | none => s
    | some e => removeVendorIds (s.take start ++ s.drop (start + e + 1))
termination_by s.length
decreasing_by
  have h1 := Str.find_lt_length h (by decide)
  have h2 := Str.find_lt_length h' (by decide)
  simp only [List.length_append, List.length_take, List.length_drop] at h2 ⊢
  omega

/-- `clean_device_label` (`:94-110`). -/
def cleanDeviceLabel (label : String) : String :=
  let clean := Str.replace (Str.replace (Str.replace label.data "Default - ".data [])
    "Communications - ".data []) "Multimedia - ".data []
  ⟨Str.trim (removeVendorIds clean)⟩

theorem removeVendorIds_of_none {s : List Char} (h : Str.find s "(0x".data = none) :
    removeVendorIds s = s := by
  rw [removeVendorIds]
  split
  · rfl
  · rename_i heq; rw [h] at heq; cases heq

theorem removeVendorIds_of_no_close {s : List Char} {start : Nat}
    (h : Str.find s "(0x".data = some start) (h' : Str.find (s.drop start) [')'] = none) :
    removeVendorIds s = s := by
  rw [removeVendorIds]
  split
  · rfl
  · rename_i st heq
    rw [h] at heq; cases heq
    split
    · rfl
    · rename_i heq'; rw [h'] at heq'; cases heq'

theorem removeVendorIds_of_close {s : List Char} {start e : Nat}
    (h : Str.find s "(0x".data = some start) (h' : Str.find (s.drop start) [')'] = some e) :
    removeVendorIds s = removeVendorIds (s.take start ++ s.drop (start + e + 1)) := by
  rw [removeVendorIds]
  split
  · rename_i heq; rw [h] at heq; cases heq
  · rename_i st heq
    rw [h] at heq; cases heq
    split
    · rename_i heq'; rw [h'] at heq'; cases heq'
    · rename_i e' heq'; rw [h'] at heq'; cases heq'; rfl

/-- When the loop stops, the first `(0x` has no `)` after it. -/
theorem removeVendorIds_spec (s : List Char) (start : Nat)
    (h : Str.find (removeVendorIds s) "(0x".data = some start) :
    Str.find ((removeVendorIds s).drop start) [')'] = none := by
  induction s using removeVendorIds.induct with
  | case1 s hs =>
    rw [removeVendorIds_of_none hs, hs] at h
    cases h
  | case2 s st hs he =>
    rw [removeVendorIds_of_no_close hs he] at h ⊢
    rw [hs] at h
    cases h
    exact he
  | case3 s st hs e he ih =>
    rw [removeVendorIds_of_close hs he] at h ⊢
    exact ih h

theorem find_ne_none_of_mem {c : Char} {l : List Char} (h : c ∈ l) : Str.find l [c] ≠ none := by
  obtain ⟨a, b, rfl⟩ := List.append_of_mem h
  obtain ⟨i, hi, -⟩ := @Str.find_le_of_infix [c] (a ++ c :: b) a b (by simp)
  simp [hi]

/-- **No vendor id survives.** A label `clean_device_label` returns never holds `(0x` followed
later by `)`. -/
theorem cleanDeviceLabel_no_vendorId (label : String) (a b c : List Char) :
    (cleanDeviceLabel label).data ≠ a ++ "(0x".data ++ b ++ ')' :: c := by
  intro hl
  set r := removeVendorIds (Str.replace (Str.replace (Str.replace label.data "Default - ".data [])
    "Communications - ".data []) "Multimedia - ".data [])
  obtain ⟨x, y, hxy⟩ : Str.trim r <:+: r :=
    (List.rdropWhile_prefix _ _).isInfix.trans (List.dropWhile_suffix _).isInfix
  have hr : r = (x ++ a) ++ "(0x".data ++ (b ++ ')' :: (c ++ y)) := by
    rw [← hxy]
    change x ++ (cleanDeviceLabel label).data ++ y = _
    rw [hl]
    simp
  obtain ⟨st, hst, hle⟩ := Str.find_le_of_infix (x ++ a) _ hr
  have hdrop : ')' ∈ r.drop st := by
    rw [hr, List.append_assoc, List.drop_append_of_le_length hle]
    simp
  exact find_ne_none_of_mem hdrop (removeVendorIds_spec _ st hst)

/-! ## Device ids -/

@[simp] theorem except_ok_bind {ε α β : Type} (a : α) (f : α → Except ε β) :
    (Except.ok a >>= f) = f a := rfl

theorem except_bind_eq_ok {ε α β : Type} {x : Except ε α} {f : α → Except ε β} {b : β} :
    (x >>= f) = .ok b ↔ ∃ a, x = .ok a ∧ f a = .ok b := by
  cases x with
  | error e => exact ⟨fun h => (nomatch h), fun ⟨_, h, _⟩ => (nomatch h)⟩
  | ok a => exact ⟨fun h => ⟨a, rfl, h⟩, fun ⟨_, h, hf⟩ => by cases h; exact hf⟩

theorem mapError_eq_ok {ε ε' α : Type} {x : Except ε α} {f : ε → ε'} {a : α} :
    x.mapError f = .ok a ↔ x = .ok a := by
  cases x with
  | error e => exact ⟨fun h => (nomatch h), fun h => (nomatch h)⟩
  | ok _ => exact ⟨fun h => by cases h; rfl, fun h => by cases h; rfl⟩

/-- The loop `for (idx, device) in devices.enumerate()` of `enumerate_devices` (`:62-72`,
`:79-89`), from index `idx` on. It stops at the first device whose `name()` fails. -/
def nameDevices (kind : AudioDeviceKind) (pfx : String) :
    Nat → List (Except String String) → Except String (List AudioDevice)
  | _, [] => .ok []
  | _, .error e :: _ => .error ("Failed to get device name: " ++ e)
  | idx, .ok name :: devices =>
    (nameDevices kind pfx (idx + 1) devices).map
      fun rest => ⟨pfx ++ toString idx, cleanDeviceLabel name, kind⟩ :: rest

/-- `enumerate_devices` (`:53-91`). -/
def enumerateDevices (inputs outputs : Except String (List (Except String String))) :
    Except String (List AudioDevice) := do
  let inputs ← inputs.mapError ("Failed to enumerate input devices: " ++ ·)
  let ins ← nameDevices .input "input_" 0 inputs
  let outputs ← outputs.mapError ("Failed to enumerate output devices: " ++ ·)
  let outs ← nameDevices .output "output_" 0 outputs
  pure (ins ++ outs)

/-- The device selection of `start_capture` (`:124-144`), reached once its `stop_capture` has
returned: the input device its id names, or the default input device when it is given none.
`usize` is 64 bits wide. -/
def selectDevice {D : Type} (inputDevices : Except String (List D)) (defaultDevice : Option D)
    (deviceId : Option String) : Except String D :=
  match deviceId with
  | some id =>
    match Str.stripPrefix id.data "input_".data with
    | some idxStr =>
      match Str.fromStr 64 idxStr with
      | none => .error ("Invalid device ID: " ++ id)
      | some idx => do
        let devices ← inputDevices.mapError ("Failed to enumerate devices: " ++ ·)
        match devices.get? idx with
        | some device => pure device
        | none => .error ("Device index " ++ toString idx ++ " not found")
    | none => .error ("Invalid device ID format: " ++ id)
  | none =>
    match defaultDevice with
    | some device => pure device
    | none => .error "No default input device available"

theorem mem_nameDevices {kind : AudioDeviceKind} {pfx : String} :
    ∀ {idx : Nat} {names : List (Except String String)} {ds : List AudioDevice},
      nameDevices kind pfx idx names = .ok ds → ∀ dev ∈ ds, dev.kind = kind ∧
        ∃ j, ∃ h : j < names.length, ∃ name, names[j] = .ok name ∧
          dev.deviceId = pfx ++ toString (idx + j) ∧ dev.label = cleanDeviceLabel name
  | _, [], _, h => by
    cases h
    simp
  | _, .error _ :: _, _, h => by cases h
  | idx, .ok name :: names, ds, h => by
    simp only [nameDevices] at h
    cases hr : nameDevices kind pfx (idx + 1) names with
    | error e => rw [hr] at h; cases h
    | ok rest =>
      rw [hr] at h
      cases h
      intro dev hdev
      rcases List.mem_cons.1 hdev with rfl | hdev
      · exact ⟨rfl, 0, by simp, name, rfl, by simp, rfl⟩
      · obtain ⟨hk, j, hj, n, hn, hid, hlab⟩ := mem_nameDevices hr dev hdev
        exact ⟨hk, j + 1, by simpa using hj, n, hn, by rw [hid]; congr 2; omega, hlab⟩

theorem enumerateDevices_ok {inputs outputs : Except String (List (Except String String))}
    {ds : List AudioDevice} (h : enumerateDevices inputs outputs = .ok ds) :
    ∃ ins outs ds₁ ds₂, inputs = .ok ins ∧ outputs = .ok outs ∧
      nameDevices .input "input_" 0 ins = .ok ds₁ ∧
      nameDevices .output "output_" 0 outs = .ok ds₂ ∧ ds = ds₁ ++ ds₂ := by
  simp only [enumerateDevices, except_bind_eq_ok, mapError_eq_ok] at h
  obtain ⟨ins, hin, ds₁, h₁, outs, hout, ds₂, h₂, hds⟩ := h
  exact ⟨ins, outs, ds₁, ds₂, hin, hout, h₁, h₂, (Except.ok.inj hds).symm⟩

theorem selectDevice_input {D : Type} (devices : List D) (dflt : Option D) {j : Nat}
    (hj : j < devices.length) (h64 : j < 2 ^ 64) :
    selectDevice (.ok devices) dflt (some ("input_" ++ toString j)) = .ok devices[j] := by
  have hs : Str.stripPrefix ("input_" ++ toString j).data "input_".data =
      some (Nat.toDigits 10 j) :=
    Str.stripPrefix_append _ _
  simp only [selectDevice, hs, Str.fromStr_toDigits h64, Except.mapError, except_ok_bind,
    List.get?_eq_getElem? devices j, List.getElem?_eq_getElem hj]
  rfl

theorem selectDevice_output {D : Type} (inputs : Except String (List D)) (dflt : Option D)
    (k : String) :
    selectDevice inputs dflt (some ("output_" ++ k)) =
      .error ("Invalid device ID format: " ++ ("output_" ++ k)) := by
  have hs : Str.stripPrefix ("output_" ++ k).data "input_".data = none := rfl
  simp only [selectDevice, hs]

/-- Listed ids select the listed device. When the host reports the same input devices to
`enumerate_devices` and to `start_capture`, each input device listed selects the device it was
listed for, under its name's cleaned label. Each output device listed is refused with
`Invalid device ID format`. -/
theorem selectDevice_enumerated {D : Type} (devices : List D) (name : D → Except String String)
    (outputs : Except String (List (Except String String))) (dflt : Option D)
    (ds : List AudioDevice) (h : enumerateDevices (.ok (devices.map name)) outputs = .ok ds)
    (h64 : devices.length ≤ 2 ^ 64) (dev : AudioDevice) (hdev : dev ∈ ds) :
    (dev.kind = .input → ∃ j, ∃ hj : j < devices.length, ∃ n, name devices[j] = .ok n ∧
        dev.label = cleanDeviceLabel n ∧
        selectDevice (.ok devices) dflt (some dev.deviceId) = .ok devices[j]) ∧
      (dev.kind = .output → selectDevice (.ok devices) dflt (some dev.deviceId) =
        .error ("Invalid device ID format: " ++ dev.deviceId)) := by
  obtain ⟨ins, outs, ds₁, ds₂, hin, -, h₁, h₂, rfl⟩ := enumerateDevices_ok h
  cases hin
  rcases List.mem_append.1 hdev with hd | hd
  · obtain ⟨hk, j, hj, n, hn, hid, hlab⟩ := mem_nameDevices h₁ dev hd
    rw [List.length_map] at hj
    refine ⟨fun _ => ?_, fun ho => ?_⟩
    · refine ⟨j, hj, n, by simpa using hn, hlab, ?_⟩
      rw [hid, Nat.zero_add]
      exact selectDevice_input devices dflt hj (by omega)
    · rw [hk] at ho; cases ho
  · obtain ⟨hk, j, -, n, -, hid, -⟩ := mem_nameDevices h₂ dev hd
    refine ⟨fun hi => ?_, fun _ => ?_⟩
    · rw [hk] at hi; cases hi
    · rw [hid]
      exact selectDevice_output _ dflt _

/-- The ids the device selection accepts. An id selects the `i`-th input device iff it is `input_`
followed by what `usize::from_str` reads as `i`: an optional `+`, then decimal digits of value
`i`. So `input_7`, `input_07` and `input_+7` name one device. -/
theorem selectDevice_eq_ok_iff {D : Type} (devices : List D) (dflt : Option D) (id : String)
    (d : D) :
    selectDevice (.ok devices) dflt (some id) = .ok d ↔
      ∃ rest i, id.data = "input_".data ++ rest ∧ Str.ReadsAs 64 rest i ∧ devices.get? i = some d := by
  simp only [← Str.stripPrefix_eq_some, ← Str.fromStr_eq_some_iff, selectDevice]
  cases Str.stripPrefix id.data "input_".data with
  | none => simp
  | some rest =>
    cases h : Str.fromStr 64 rest with
    | none => simp [h]
    | some i => cases hd : devices[i]? <;> simp [h, hd, Except.mapError, pure, Except.pure]

example : selectDevice (.ok (List.range 8)) none (some "input_+07") = .ok 7 := rfl

end Cordia.Audio
