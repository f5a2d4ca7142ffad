import V4l2Capture.Camera.Device
import V4l2Capture.Library.LittleEndian
import V4l2Capture.Protocol.FrameHeader

/-!
# Pixel formats as text

`fourcc_to_string` against `string_to_fourcc`. The decoder puts letters in upper case before it
packs them, so a code comes back with its lower-case letters changed.
-/
namespace V4l2Capture.Camera.Device

open Traced Program

def fourccToString (pixelformat : UInt32) : List UInt8 :=
  [(pixelformat &&& 0xFF).toUInt8, ((pixelformat >>> 8) &&& 0xFF).toUInt8,
    ((pixelformat >>> 16) &&& 0xFF).toUInt8, ((pixelformat >>> 24) &&& 0xFF).toUInt8]

/-- The file names of saved frames end in the same bytes. -/
theorem fourccText_toList (pixelformat : UInt32) :
    (Protocol.fourccText pixelformat).toList =
      (fourccToString pixelformat).map fun byte => Char.ofNat byte.toNat := by
  have byte (word : UInt32) : (word &&& 0xFF).toUInt8.toNat = (word &&& 0xFF).toNat := by
    rw [UInt32.toNat_toUInt8, UInt32.toNat_and]
    exact Nat.mod_eq_of_lt (Nat.and_lt_two_pow _ (by decide))
  simp only [Protocol.fourccText, String.toList_ofList, fourccToString, List.map_cons,
    List.map_nil, byte]
  simp

theorem fourccToString_eq (pixelformat : UInt32) :
    fourccToString pixelformat = LittleEndian.bytes 4 pixelformat.toNat := by
  have byte (word : UInt32) : (word &&& 0xFF).toUInt8 = UInt8.ofNat word.toNat := by
    rw [UInt32.toUInt8_and, UInt8.ofNat_uInt32ToNat]
    exact UInt8.and_neg_one
  have shifted (shift : UInt32) (small : shift.toNat < 32) :
      (pixelformat >>> shift).toNat = pixelformat.toNat / 2 ^ shift.toNat := by
    rw [UInt32.toNat_shiftRight, Nat.mod_eq_of_lt small, Nat.shiftRight_eq_div_pow]
  simp only [fourccToString, byte, LittleEndian.bytes, Nat.div_div_eq_div_mul]
  rw [shifted 8 (by decide), shifted 16 (by decide), shifted 24 (by decide)]
  rfl

/-! ### Packing -/

theorem pack_eq (c0 c1 c2 c3 : UInt8) :
    c0.toUInt32 ||| c1.toUInt32 <<< 8 ||| c2.toUInt32 <<< 16 ||| c3.toUInt32 <<< 24 =
      UInt32.ofNat (LittleEndian.value [c0, c1, c2, c3]) := by
  -- No bit of a byte is shifted out.
  have shifted (c : UInt8) (shift : UInt32) (small : shift.toNat ≤ 24) :
      (c.toUInt32 <<< shift).toNat = c.toNat <<< shift.toNat := by
    have byte : c.toNat < 2 ^ 8 := c.toNat_lt
    have within : shift.toNat % 32 = shift.toNat := Nat.mod_eq_of_lt (by omega)
    rw [UInt32.toNat_shiftLeft, UInt8.toNat_toUInt32, within, Nat.shiftLeft_eq]
    apply Nat.mod_eq_of_lt
    calc c.toNat * 2 ^ shift.toNat < 2 ^ 8 * 2 ^ shift.toNat :=
          Nat.mul_lt_mul_of_pos_right byte (Nat.two_pow_pos _)
      _ ≤ 2 ^ 8 * 2 ^ 24 := Nat.mul_le_mul_left _ (Nat.pow_le_pow_right (by decide) small)
  apply UInt32.toNat_inj.mp
  have small : LittleEndian.value [c0, c1, c2, c3] < 2 ^ 32 :=
    (LittleEndian.value_lt [c0, c1, c2, c3]).trans_eq (by norm_num)
  rw [UInt32.toNat_ofNat', Nat.mod_eq_of_lt small, ← LittleEndian.loopValue_eq]
  simp only [UInt32.toNat_or, shifted _ 8 (by decide), shifted _ 16 (by decide),
    shifted _ 24 (by decide), UInt8.toNat_toUInt32]
  simp [LittleEndian.loopValue, List.range_succ]

/-! ### Case -/

def IsLower (c : UInt8) : Prop :=
  'a'.toNat ≤ c.toNat ∧ c.toNat ≤ 'z'.toNat

instance : DecidablePred IsLower := fun c =>
  inferInstanceAs (Decidable ('a'.toNat ≤ c.toNat ∧ c.toNat ≤ 'z'.toNat))

theorem toUpper_of_not_lower {c : UInt8} (other : ¬ IsLower c) : toUpper c = c :=
  if_neg other

theorem toUpper_toNat_of_lower {c : UInt8} (lower : IsLower c) :
    (toUpper c).toNat = c.toNat - 32 := by
  have room : (32 : UInt8) ≤ c := Nat.le_trans (by decide) lower.1
  have subtracted : toUpper c = c - 32 := if_pos lower
  rw [subtracted, UInt8.toNat_sub_of_le _ _ room]
  rfl

theorem toUpper_ascii {c : UInt8} (ascii : c.toNat < 128) : (toUpper c).toNat < 128 := by
  by_cases lower : IsLower c
  · rw [toUpper_toNat_of_lower lower]
    omega
  · rwa [toUpper_of_not_lower lower]

theorem toUpper_eq_self_iff (c : UInt8) : toUpper c = c ↔ ¬ IsLower c := by
  refine ⟨?_, toUpper_of_not_lower⟩
  intro same lower
  have changed := toUpper_toNat_of_lower lower
  have first : 97 ≤ c.toNat := lower.1
  rw [same] at changed
  omega

theorem map_toUpper_eq_self_iff (text : List UInt8) :
    text.map toUpper = text ↔ ∀ c ∈ text, ¬ IsLower c := by
  have fixed : text.map toUpper = text.map id ↔ ∀ c ∈ text, toUpper c = c := List.map_inj_left
  rw [List.map_id] at fixed
  simpa only [toUpper_eq_self_iff] using fixed

/-! ### The round trip -/

/-- `set_format` behind its call of `string_to_fourcc`. -/
def requestFormat (camera : CameraId) (width height requestedFourcc : UInt32)
    (calls : SetFormatCalls) : Operation Unit := do
  check (calls.sFmt width height requestedFourcc) "VIDIOC_S_FMT failed: "
  match calls.gFmt with
  | .error message => fail ("VIDIOC_G_FMT failed: " ++ message)
  | .ok current => step (·.modify camera ({ · with
      currentWidth := current.width, currentHeight := current.height,
      currentPixelformat := current.pixelformat, currentSizeimage := current.sizeimage }))

theorem setFormat_of_ok {pixelFormat : List UInt8} {requestedFourcc : UInt32}
    (ok : stringToFourcc pixelFormat = .ok requestedFourcc) (camera : CameraId)
    (width height : UInt32) (calls : SetFormatCalls) :
    setFormat camera width height pixelFormat calls =
      (requireOpened camera >>= fun _ =>
        requestFormat camera width height requestedFourcc calls) := by
  rw [setFormat, ok]
  rfl

/-- The code whose bytes are the ones of `code` in upper case. -/
def upperCode (code : UInt32) : UInt32 :=
  UInt32.ofNat (LittleEndian.value ((fourccToString code).map toUpper))

theorem fourccToString_upperCode (code : UInt32) :
    fourccToString (upperCode code) = (fourccToString code).map toUpper := by
  have small : LittleEndian.value ((fourccToString code).map toUpper) < 2 ^ 32 :=
    (LittleEndian.value_lt _).trans_eq (by rw [List.length_map]; norm_num [fourccToString])
  rw [fourccToString_eq, upperCode, UInt32.toNat_ofNat', Nat.mod_eq_of_lt small]
  exact LittleEndian.bytes_value ((fourccToString code).map toUpper)

theorem fourccToString_injective : Function.Injective fourccToString := by
  intro first second same
  have values := congrArg LittleEndian.value same
  rw [fourccToString_eq, fourccToString_eq, LittleEndian.value_bytes_of_lt first.toNat_lt,
    LittleEndian.value_bytes_of_lt second.toNat_lt] at values
  exact UInt32.toNat_inj.mp values

theorem upperCode_eq_self_iff (code : UInt32) :
    upperCode code = code ↔ ∀ c ∈ fourccToString code, ¬ IsLower c := by
  rw [← fourccToString_injective.eq_iff, fourccToString_upperCode, map_toUpper_eq_self_iff]

/-- The sign of a `char` does not show below 128. -/
theorem stringToFourcc_of_ascii {code : UInt32}
    (ascii : ∀ c ∈ fourccToString code, c.toNat < 128) :
    stringToFourcc (fourccToString code) = .ok (upperCode code) := by
  have unsigned (c : UInt8) (member : c ∈ fourccToString code) :
      charToU32 (toUpper c) = (toUpper c).toUInt32 := if_pos (toUpper_ascii (ascii c member))
  have bytes : (fourccToString code).map (charToU32 ∘ toUpper) =
      (fourccToString code).map (UInt8.toUInt32 ∘ toUpper) := List.map_congr_left unsigned
  -- Both sides pack the same four bytes.
  rw [stringToFourcc, bytes, upperCode]
  exact congrArg Except.ok (pack_eq _ _ _ _)

/-- The bytes of printable ASCII. -/
def Printable (code : UInt32) : Prop :=
  ∀ c ∈ fourccToString code, ' '.toNat ≤ c.toNat ∧ c.toNat ≤ '~'.toNat

instance : DecidablePred Printable := fun code =>
  List.decidableBAll (fun c : UInt8 => ' '.toNat ≤ c.toNat ∧ c.toNat ≤ '~'.toNat) (fourccToString code)

/-- The text of a listed format requests the format with its letters in upper case, so it
requests the listed one exactly if that has no lower-case letter. -/
theorem fourccToString_requests (code : UInt32) (printable : Printable code) :
    stringToFourcc (fourccToString code) = .ok (upperCode code)
      ∧ fourccToString (upperCode code) = (fourccToString code).map toUpper
      ∧ (upperCode code = code ↔ ∀ c ∈ fourccToString code, ¬ IsLower c)
      ∧ ∀ camera width height calls,
        setFormat camera width height (fourccToString code) calls =
          (requireOpened camera >>= fun _ =>
            requestFormat camera width height (upperCode code) calls) := by
  have ascii : ∀ c ∈ fourccToString code, c.toNat < 128 := by
    intro c member
    exact (printable c member).2.trans_lt (by decide)
  have ok := stringToFourcc_of_ascii ascii
  exact ⟨ok, fourccToString_upperCode code, upperCode_eq_self_iff code, setFormat_of_ok ok⟩

/-- `pBAA`, a packed Bayer format, requests `PBAA`. -/
theorem fourccToString_requests_bayer :
    stringToFourcc (fourccToString 0x41414270) = .ok 0x41414250
      ∧ fourccToString 0x41414250 = (fourccToString 0x41414270).map toUpper
      ∧ ¬ (∀ c ∈ fourccToString 0x41414270, ¬ IsLower c)
      ∧ ∀ camera width height calls,
        setFormat camera width height (fourccToString 0x41414270) calls =
          (requireOpened camera >>= fun _ =>
            requestFormat camera width height 0x41414250 calls) := by
  obtain ⟨requested, upper, unchanged, set⟩ := fourccToString_requests 0x41414270 (by decide)
  have code : upperCode 0x41414270 = 0x41414250 := by decide
  rw [code] at requested upper unchanged
  rw [← unchanged]
  refine ⟨requested, upper, by decide, fun camera width height calls => ?_⟩
  rw [set, code]

/-- `pBAA`, a packed Bayer format, comes back as `PBAA`. -/
theorem packed_bayer_is_not_requested :
    ¬ ∀ code, Printable code → stringToFourcc (fourccToString code) = .ok code := by
  intro all
  exact absurd (all 0x41414270 (by decide)) (by decide)

end V4l2Capture.Camera.Device
