import Mathlib.Data.List.Basic
import ScanService.Proofs.Text.Numeral
import ScanService.Text.Percent

/-!
# Percent signs that are read back

Whoever reads an address takes the percent signs first and the bytes that come of it as UTF-8 then.
A text without percent signs of its own is read back so, whatever else of it is written with them.

The query of an address is a form: members with ampersands between them, each a name and a value with
an equals sign between the two.  A plus sign stands for a blank there, and so a member is read back
only if none of these signs is in it but where it belongs.

## What is here

* `percentText?`, `formMembers` — how a text is read in an address, and how a form is.
* `mem_of_mem_percentEncode` — writing brings in percent signs and digits, and nothing else.
* `percentText?_percentEncode`, `formMembers_percentEncode` — **what is written is read back.**
-/

namespace ScanService
namespace Text

variable {kept : Char → Bool} {s rest part : List Char} {c : Char}

/-! ## Deciding

What all characters of a text are like is to be decided on the text, and not on all characters that
there are. -/

scoped instance (priority := high) decidableForallMem {p : Char → Prop} [DecidablePred p]
    (s : List Char) : Decidable (∀ c ∈ s, p c) :=
  List.decidableBAll p s

scoped instance (priority := high) decidableForallMemOption {p : Char → Prop} [DecidablePred p]
    (c? : Option Char) : Decidable (∀ c ∈ c?, p c) :=
  Option.decidableForallMem c?

/-! ## Reading -/

/-- The bytes that the characters of an address stand for; all of them are ASCII, but for those that
have been read from percent signs. -/
def bytes (s : List Char) : List UInt8 := s.map fun c => UInt8.ofNat c.toNat

@[simp] theorem bytes_nil : bytes [] = [] := rfl

@[simp] theorem bytes_cons (c : Char) (s : List Char) :
    bytes (c :: s) = UInt8.ofNat c.toNat :: bytes s := rfl

/-- Reads a text in an address. -/
def percentText? (s : List Char) : Option String :=
  String.fromUTF8? (bytes (percentDecode s)).toByteArray

/-- Reads a text in a form. -/
def formText? (s : List Char) : Option String :=
  percentText? (s.map fun c => if c = '+' then ' ' else c)

/-- Reads a member of a form: its name, and its value behind the first equals sign. -/
def formMember (s : List Char) : Option String × Option String :=
  (formText? (s.takeWhile (· != '=')), formText? (s.dropWhile (· != '=')).tail)

/-- Reads a form. -/
def formMembers (s : List Char) : List (Option String × Option String) :=
  (s.splitOn '&').map formMember

/-- Writes a form, as it is before anything is written with percent signs. -/
def form (members : List (List Char × List Char)) : List Char :=
  ['&'].intercalate (members.map fun m => m.1 ++ '=' :: m.2)

/-- The value of the first member of a name in a form. -/
def formValue? (name : String) (s : List Char) : Option String :=
  ((formMembers s).lookup (some name)).join

/-! ## Bytes -/

theorem hexValue_toUpper_digitChar {d : Nat} (h : d < 16) :
    hexValue (Nat.digitChar d).toUpper = some d := by
  revert d
  decide

/-- A byte is written with two digits. -/
theorem exists_percentByte (b : UInt8) : ∃ m n, m < 16 ∧ n < 16 ∧ 16 * m + n = b.toNat ∧
    percentByte b = ['%', (Nat.digitChar m).toUpper, (Nat.digitChar n).toUpper] := by
  obtain ⟨values, hwritten, hlt, hvalue, -, hlength⟩ :=
    exists_zeroPad (by decide : 1 < 16) 2 b.toNat
  obtain ⟨m, n, rfl⟩ := List.length_eq_two.mp (hlength (by decide) b.toNat_lt)
  refine ⟨m, n, hlt m (by simp), hlt n (by simp), ?_, ?_⟩
  · rw [← hvalue, ofDigits_cons, ofDigits_cons, ofDigits_nil]
    simp [Nat.mul_comm]
  · rw [percentByte, hexadecimal, hwritten]
    rfl

theorem percentDecode_percentByte_append (b : UInt8) (rest : List Char) :
    percentDecode (percentByte b ++ rest) = Char.ofNat b.toNat :: percentDecode rest := by
  obtain ⟨m, n, hm, hn, hvalue, hwritten⟩ := exists_percentByte b
  rw [hwritten, List.cons_append, List.cons_append, List.cons_append, List.nil_append,
    percentDecode, hexValue_toUpper_digitChar hm, hexValue_toUpper_digitChar hn, ← hvalue]

theorem percentDecode_cons_of_ne (h : c ≠ '%') (rest : List Char) :
    percentDecode (c :: rest) = c :: percentDecode rest := by
  rw [percentDecode]
  rintro a b r rfl
  exact absurd rfl h

theorem ofNat_toNat_ofNat (b : UInt8) : UInt8.ofNat (Char.ofNat b.toNat).toNat = b := by
  have hvalid : b.toNat.isValidChar := .inl (by have := b.toNat_lt; omega)
  rw [Char.ofNat, dif_pos hvalid]
  exact UInt8.ofNat_toNat

/-- Bytes that are written are read back. -/
theorem bytes_percentDecode_flatMap_append (bs : List UInt8) (rest : List Char) :
    bytes (percentDecode (bs.flatMap percentByte ++ rest)) = bs ++ bytes (percentDecode rest) := by
  induction bs with
  | nil => rfl
  | cons b bs ih =>
    rw [List.flatMap_cons, List.append_assoc, percentDecode_percentByte_append,
      bytes_cons, ofNat_toNat_ofNat, ih, List.cons_append]

/-! ## Texts -/

theorem percentEncode_cons (kept : Char → Bool) (c : Char) (s : List Char) :
    percentEncode kept (c :: s) =
      (if kept c then [c] else (String.utf8EncodeChar c).flatMap percentByte)
        ++ percentEncode kept s :=
  List.flatMap_cons

theorem utf8EncodeChar_of_lt (h : c.toNat < 128) :
    String.utf8EncodeChar c = [UInt8.ofNat c.toNat] :=
  if_pos (Nat.le_of_lt_succ h)

/-- The bytes of a text are read back, if what is kept of it are ASCII characters and none of them a
percent sign. -/
theorem bytes_percentDecode_percentEncode_append (hkept : ∀ c, kept c = true → c.toNat < 128)
    (hs : '%' ∉ s) (rest : List Char) :
    bytes (percentDecode (percentEncode kept s ++ rest)) =
      s.flatMap String.utf8EncodeChar ++ bytes (percentDecode rest) := by
  induction s with
  | nil => rfl
  | cons c s ih =>
    rw [List.mem_cons, not_or] at hs
    rw [percentEncode_cons, List.flatMap_cons, List.append_assoc, List.append_assoc, ← ih hs.2]
    split
    · next hc =>
      rw [List.cons_append, List.nil_append, percentDecode_cons_of_ne (Ne.symm hs.1),
        utf8EncodeChar_of_lt (hkept c hc), bytes_cons]
      rfl
    · exact bytes_percentDecode_flatMap_append _ _

theorem fromUTF8?_toByteArray (s : String) : String.fromUTF8? s.toByteArray = some s :=
  dif_pos s.isValidUTF8

/-- **A text is read back**, if it has no percent signs of its own. -/
theorem percentText?_percentEncode (hkept : ∀ c, kept c = true → c.toNat < 128) (hs : '%' ∉ s) :
    percentText? (percentEncode kept s) = some (String.ofList s) := by
  have hbytes := bytes_percentDecode_percentEncode_append hkept hs []
  rw [List.append_nil, percentDecode, bytes_nil, List.append_nil] at hbytes
  rw [percentText?, hbytes, ← fromUTF8?_toByteArray, String.toByteArray_ofList, List.utf8Encode]

/-- Writing brings in percent signs and digits only. -/
theorem mem_of_mem_percentEncode (h : c ∈ percentEncode kept s) (hpercent : c ≠ '%')
    (hdigit : hexValue c = none) : c ∈ s := by
  obtain ⟨a, ha, hc⟩ := List.mem_flatMap.mp h
  split at hc
  · rwa [List.mem_singleton.mp hc]
  · obtain ⟨b, -, hc⟩ := List.mem_flatMap.mp hc
    obtain ⟨m, n, hm, hn, -, hwritten⟩ := exists_percentByte b
    have hvalue {d : Nat} (hd : d < 16) : c ≠ (Nat.digitChar d).toUpper := by
      rintro rfl
      exact nomatch hdigit.symm.trans (hexValue_toUpper_digitChar hd)
    rw [hwritten] at hc
    simp [hpercent, hvalue hm, hvalue hn] at hc

/-! ## Texts that are put together -/

theorem percentEncode_append (kept : Char → Bool) (s t : List Char) :
    percentEncode kept (s ++ t) = percentEncode kept s ++ percentEncode kept t :=
  List.flatMap_append

theorem percentEncode_cons_of_kept (h : kept c = true) (s : List Char) :
    percentEncode kept (c :: s) = c :: percentEncode kept s := by
  rw [percentEncode_cons, if_pos h, List.singleton_append]

/-- What is kept is written as it is. -/
theorem percentEncode_eq_self (h : ∀ c ∈ s, kept c = true) : percentEncode kept s = s := by
  induction s with
  | nil => rfl
  | cons c s ih =>
    rw [List.forall_mem_cons] at h
    rw [percentEncode_cons_of_kept h.1, ih h.2]

theorem intercalate_cons (c : Char) (part : List Char) (parts : List (List Char)) :
    [c].intercalate (part :: parts) = part ++ parts.flatMap (c :: ·) := by
  induction parts generalizing part with
  | nil => simp
  | cons next parts ih =>
    rw [List.intercalate_cons_cons, ih, List.flatMap_cons, List.append_assoc]
    rfl

/-- The parts that a text is split into, with what splits it in front of each. -/
theorem flatMap_splitOn (c : Char) (s : List Char) :
    (s.splitOn c).flatMap (c :: ·) = c :: s := by
  have hjoin : [c].intercalate (s.splitOn c) = s := List.intercalate_splitOn c
  obtain ⟨part, parts, hsplit⟩ := List.exists_cons_of_ne_nil (List.splitOn_ne_nil c s)
  rw [hsplit, intercalate_cons] at hjoin
  rw [hsplit, List.flatMap_cons, List.cons_append, hjoin]

/-- The parts that a text is split into hold what it holds, but for what splits it. -/
theorem of_mem_splitOn (h : part ∈ s.splitOn c) : c ∉ part ∧ ∀ d ∈ part, d ∈ s := by
  induction s generalizing part with
  | nil =>
    obtain rfl := List.mem_singleton.mp h
    simp
  | cons d s ih =>
    rw [List.splitOn_cons_eq_if_modifyHead] at h
    split at h
    · rcases List.mem_cons.mp h with rfl | h
      · simp
      · exact ⟨(ih h).1, fun e he => List.mem_cons_of_mem _ ((ih h).2 e he)⟩
    · next hd =>
      obtain ⟨head, tail, hsplit⟩ := List.exists_cons_of_ne_nil (List.splitOn_ne_nil c s)
      rw [hsplit] at h ih
      rcases List.mem_cons.mp h with rfl | h
      · obtain ⟨hnone, hmem⟩ := ih (List.mem_cons_self ..)
        have hdc : c ≠ d := fun heq => hd (beq_iff_eq.mpr heq.symm)
        refine ⟨by simp [hnone, hdc], fun e he => ?_⟩
        rcases List.mem_cons.mp he with rfl | he
        · exact List.mem_cons_self ..
        · exact List.mem_cons_of_mem _ (hmem e he)
      · obtain ⟨hnone, hmem⟩ := ih (List.mem_cons_of_mem _ h)
        exact ⟨hnone, fun e he => List.mem_cons_of_mem _ (hmem e he)⟩

/-- Parts with a kept character between them are written one by one. -/
theorem percentEncode_intercalate (h : kept c = true) (parts : List (List Char)) :
    percentEncode kept ([c].intercalate parts) =
      [c].intercalate (parts.map (percentEncode kept)) := by
  cases parts with
  | nil => rfl
  | cons part parts =>
    rw [List.map_cons, intercalate_cons, intercalate_cons, percentEncode_append]
    refine congrArg _ ?_
    induction parts with
    | nil => rfl
    | cons next parts ih =>
      rw [List.flatMap_cons, List.map_cons, List.flatMap_cons, percentEncode_append,
        percentEncode_cons_of_kept h, ih]

/-! ## Forms -/

/-- A text that can stand in a form, as far as its own signs go. -/
structure IsFormText (s : List Char) : Prop where
  percent : '%' ∉ s
  plus : '+' ∉ s
  ampersand : '&' ∉ s

instance : DecidablePred IsFormText := fun _ =>
  decidable_of_iff (_ ∧ _ ∧ _)
    ⟨fun h => ⟨h.1, h.2.1, h.2.2⟩, fun h => ⟨h.percent, h.plus, h.ampersand⟩⟩

/-- A text is read back in a form. -/
theorem IsFormText.formText?_percentEncode (hs : IsFormText s)
    (hkept : ∀ c, kept c = true → c.toNat < 128) :
    formText? (percentEncode kept s) = some (String.ofList s) := by
  have hplus : '+' ∉ percentEncode kept s := fun h =>
    hs.plus (mem_of_mem_percentEncode h (by decide) (by decide))
  rw [formText?, List.map_congr_left (g := id), List.map_id,
    percentText?_percentEncode hkept hs.percent]
  intro c hc
  exact if_neg (by rintro rfl; exact hplus hc)

theorem formMember_percentEncode {name value : List Char} (hname : IsFormText name)
    (hequals : '=' ∉ name) (hvalue : IsFormText value)
    (hkept : ∀ c, kept c = true → c.toNat < 128) (hkeep : kept '=' = true) :
    formMember (percentEncode kept (name ++ '=' :: value)) =
      (some (String.ofList name), some (String.ofList value)) := by
  have hne : ∀ c ∈ percentEncode kept name, (c != '=') = true := fun c hc => by
    rw [bne_iff_ne]
    rintro rfl
    exact hequals (mem_of_mem_percentEncode hc (by decide) (by decide))
  rw [percentEncode_append, percentEncode_cons_of_kept hkeep, formMember,
    List.takeWhile_append_of_pos hne, List.dropWhile_append_of_pos hne,
    List.takeWhile_cons_of_neg (by decide), List.dropWhile_cons_of_neg (by decide),
    List.append_nil, List.tail_cons, hname.formText?_percentEncode hkept,
    hvalue.formText?_percentEncode hkept]

/-- **A form is read back**, if its names and values are texts that can stand in it. -/
theorem formMembers_percentEncode {members : List (List Char × List Char)} (hne : members ≠ [])
    (hmembers : ∀ m ∈ members, IsFormText m.1 ∧ '=' ∉ m.1 ∧ IsFormText m.2)
    (hkept : ∀ c, kept c = true → c.toNat < 128) (hequals : kept '=' = true)
    (hampersand : kept '&' = true) :
    formMembers (percentEncode kept (form members)) =
      members.map fun m => (some (String.ofList m.1), some (String.ofList m.2)) := by
  rw [formMembers, form, percentEncode_intercalate hampersand, List.splitOn_intercalate, List.map_map,
    List.map_map]
  · refine List.map_congr_left fun m hm => ?_
    obtain ⟨hname, hnone, hvalue⟩ := hmembers m hm
    exact formMember_percentEncode hname hnone hvalue hkept hequals
  · intro l hl hmem
    obtain ⟨_, hwritten, rfl⟩ := List.mem_map.mp hl
    obtain ⟨m, hm, rfl⟩ := List.mem_map.mp hwritten
    obtain ⟨hname, -, hvalue⟩ := hmembers m hm
    have hmem := mem_of_mem_percentEncode hmem (by decide) (by decide)
    simp [hname.ampersand, hvalue.ampersand] at hmem
  · simpa using hne

end Text
end ScanService
