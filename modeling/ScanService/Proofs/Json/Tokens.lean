import Mathlib.Data.List.Basic
import Mathlib.Tactic.IntervalCases
import ScanService.Json.Token
import ScanService.Proofs.Text.Numeral

/-!
# The tokens of a text that is written

A value is written as a text, and the scan of that text finds the tokens of the value.  The scan
takes one character at a time; each part of the text is shown to bring it back between tokens with
the tokens of that part, whatever follows.  Only numerals and words need something behind them that
ends them, and in what is written it is a bracket, a comma or the end.

## What is here

* `Json.tokens` — the tokens of a value.
* `Json.isExact` — the values whose numbers are whole and fit sixty-four bits, as all numbers of
  records do.
* `scanFrom_number`, `scanFrom_textChars`, `scanFrom_word` — the parts.
* `ofChars?_chars` — **the text of an exact value has the tokens of the value.**
-/

namespace ScanService

/-- Whether a number is whole and is read as written. -/
def Number.isExact : Number → Bool
  | whole n => -9223372036854775808 ≤ n && n < 18446744073709551616
  | double _ => false

namespace Json

variable {c : Char} {s rest : List Char} {values : List Nat} {t : Token} {state next : Scan}

open Token (scanFrom)

/-! ## What is between tokens -/

/-- A text that ends a numeral or a word in front of it. -/
def EndsRun (rest : List Char) : Prop :=
  ∀ c ∈ rest.head?, isNumeralChar c = false ∧ isWordChar c = false

theorem endsRun_nil : EndsRun [] := nofun

theorem endsRun_cons (hnumeral : isNumeralChar c = false) (hword : isWordChar c = false) :
    EndsRun (c :: rest) := by
  rintro _ ⟨⟩
  exact ⟨hnumeral, hword⟩

/-- A character that ends no token only moves the scan. -/
theorem scanFrom_cons (h : scanChar state c = some (next, [])) :
    scanFrom state (c :: rest) = scanFrom next rest := by
  rw [scanFrom, h]
  exact Option.map_id_apply

/-- A character that ends one token puts it in front. -/
theorem scanFrom_cons_token (h : scanChar state c = some (next, [t])) :
    scanFrom state (c :: rest) = (scanFrom next rest).map (t :: ·) := by
  rw [scanFrom, h]
  rfl

/-! ## Runs

A numeral and a word are both runs of characters, which are seen until one comes that is none of the
run. -/

/-- The characters of a run are all seen before anything else happens. -/
theorem scanFrom_run {run : List Char → Scan} {seen : List Char}
    (h : ∀ c ∈ s, ∀ seen, scanChar (run seen) c = some (run (c :: seen), [])) :
    scanFrom (run seen) (s ++ rest) = scanFrom (run (s.reverse ++ seen)) rest := by
  induction s generalizing seen with
  | nil => rfl
  | cons c s ih =>
    rw [List.forall_mem_cons] at h
    rw [List.cons_append, scanFrom_cons (h.1 seen), ih h.2, List.reverse_cons, List.append_assoc,
      List.singleton_append]

/-- What ends a run goes on as it does between tokens. -/
theorem scanFrom_of_ends (hend : scanEnd state = some [t])
    (hstep : ∀ c ∈ rest.head?, scanChar state c = do
      let (next, tokens) ← scanBetween c
      return (next, t :: tokens)) :
    scanFrom state rest = (scanFrom .between rest).map (t :: ·) := by
  cases rest with
  | nil => exact hend
  | cons c rest =>
    rw [scanFrom, scanFrom, hstep c rfl, scanChar]
    cases scanBetween c with
    | none => rfl
    | some step =>
      obtain ⟨next, tokens⟩ := step
      exact (Option.map_map (t :: ·) (tokens ++ ·) _).symm

/-- A numeral in front of what ends it is one token. -/
theorem scanFrom_numeral (hfirst : scanChar .between c = some (.numeral [c], []))
    (hmore : ∀ d ∈ s, isNumeralChar d = true) (htoken : numeralToken (c :: s).reverse = some t)
    (hrest : EndsRun rest) :
    scanFrom .between (c :: s ++ rest) = (scanFrom .between rest).map (t :: ·) := by
  rw [List.reverse_cons] at htoken
  rw [List.cons_append, scanFrom_cons hfirst,
    scanFrom_run fun d hd seen => by rw [scanChar, if_pos (hmore d hd)]]
  refine scanFrom_of_ends (by rw [scanEnd, htoken]; rfl) fun d hd => ?_
  rw [scanChar, (hrest d hd).1, htoken]
  rfl

/-- A word in front of what ends it is one token. -/
theorem scanFrom_word (hfirst : scanChar .between c = some (.word [c], []))
    (hmore : s.all isWordChar = true) (htoken : wordToken (c :: s).reverse = some t)
    (hrest : EndsRun rest) :
    scanFrom .between (c :: s ++ rest) = (scanFrom .between rest).map (t :: ·) := by
  rw [List.reverse_cons] at htoken
  rw [List.cons_append, scanFrom_cons hfirst,
    scanFrom_run fun d hd seen => by rw [scanChar, if_pos (List.all_eq_true.mp hmore d hd)]]
  refine scanFrom_of_ends (by rw [scanEnd, htoken]; rfl) fun d hd => ?_
  rw [scanChar, (hrest d hd).2, htoken]
  rfl

/-! ## Numbers -/

theorem isNumeralChar_digitChar {d : Nat} (h : d < 10) :
    isNumeralChar (Nat.digitChar d) = true := by
  revert d
  decide

namespace Numeral

/-- Digits are taken while the number they come to fits sixty-four bits. -/
theorem extend_eq {m : Nat} (h : m * 10 ^ values.length + Text.ofDigits 10 values < UInt64.size) :
    extend m values = (m * 10 ^ values.length + Text.ofDigits 10 values, []) := by
  induction values generalizing m with
  | nil => simp [extend]
  | cons d values ih =>
    have hsplit : m * 10 ^ (d :: values).length + Text.ofDigits 10 (d :: values) =
        (m * 10 + d) * 10 ^ values.length + Text.ofDigits 10 values := by
      rw [Text.ofDigits_cons, List.length_cons, Nat.pow_succ]
      ring
    have hle : m * 10 + d ≤ (m * 10 + d) * 10 ^ values.length :=
      Nat.le_mul_of_pos_right _ (Nat.pow_pos (by decide))
    rw [hsplit] at h ⊢
    rw [extend, if_pos (by omega), ih h]

/-- Digits, with or without a sign, are a numeral if no zero stands in front of another digit. -/
theorem ofChars?_digits (hlt : ∀ v ∈ values, v < 10) (hne : values ≠ [])
    (hzero : values.head? = some 0 → values = [0]) :
    ofChars? (values.map Nat.digitChar) = some ⟨false, values, none, none⟩ ∧
      ofChars? ('-' :: values.map Nat.digitChar) = some ⟨true, values, none, none⟩ := by
  have hdigits := Text.takeDigits_map_digitChar hlt (show ∀ c ∈ [].head?, _ from nofun)
  rw [List.append_nil] at hdigits
  obtain ⟨v, more, rfl⟩ := List.exists_cons_of_ne_nil hne
  have hshape : (∃ k, v = k + 1) ∨ (v = 0 ∧ more = []) := by
    cases v with
    | zero => exact .inr ⟨rfl, (List.cons.inj (hzero rfl)).2⟩
    | succ k => exact .inl ⟨k, rfl⟩
  refine ⟨?_, ?_⟩
  · rw [ofChars?, take?, hdigits]
    · rcases hshape with ⟨k, rfl⟩ | ⟨rfl, rfl⟩ <;> rfl
    · intro s hs
      have hdigit := Text.decimalValue_digitChar (hlt v List.mem_cons_self)
      rw [(List.cons.inj hs).1] at hdigit
      exact nomatch hdigit
  · rw [ofChars?, take?, hdigits]
    rcases hshape with ⟨k, rfl⟩ | ⟨rfl, rfl⟩ <;> rfl

/-- A numeral of digits alone is the whole number they come to, if that fits. -/
theorem value?_digits (negative : Bool) {k : Nat} (hk : Text.ofDigits 10 values = k)
    (hsize : k < UInt64.size) (hsign : negative = true → 0 < k ∧ 2 * k ≤ UInt64.size) :
    (⟨negative, values, none, none⟩ : Numeral).value? =
      some (.whole (if negative then -(k : Int) else k)) := by
  have hextend : extend 0 values = (k, []) := by
    have hread : _ → extend 0 values = _ := extend_eq
    rw [Nat.zero_mul, Nat.zero_add, hk] at hread
    exact hread hsize
  rw [value?, hextend]
  cases negative with
  | false => rfl
  | true =>
    obtain ⟨hpos, hfits⟩ := hsign rfl
    have hin : ¬ (k = 0 ∨ UInt64.size < 2 * k) := by omega
    simp [hin]

end Numeral

/-- The numeral of an exact number has it as its value. -/
theorem numeralToken_chars {n : Number} (h : n.isExact = true) :
    numeralToken n.chars.reverse = some (.number (some n)) := by
  cases n with
  | double x => cases h
  | whole k =>
    obtain ⟨hlow, hhigh⟩ : -9223372036854775808 ≤ k ∧ k < 18446744073709551616 := by
      simpa [Number.isExact] using h
    obtain ⟨values, hwritten, hlt, hvalue, hne, hzero⟩ :=
      Text.exists_toDigits (by decide : 1 < 10) k.natAbs
    obtain ⟨hplain, hsigned⟩ := Numeral.ofChars?_digits hlt hne hzero
    have hsize : k.natAbs < UInt64.size := by
      rw [UInt64.size]
      omega
    rw [numeralToken, List.reverse_reverse, Number.chars]
    split
    · next hneg =>
      have hfits : true = true → 0 < k.natAbs ∧ 2 * k.natAbs ≤ UInt64.size := fun _ => by
        rw [UInt64.size]
        omega
      rw [Text.decimal, hwritten, hsigned, Option.map_some,
        Numeral.value?_digits true hvalue hsize hfits, if_pos rfl,
        show -(k.natAbs : Int) = k by omega]
    · next hpos =>
      rw [Text.decimal, show k.toNat = k.natAbs by omega, hwritten, hplain, Option.map_some,
        Numeral.value?_digits false hvalue hsize (fun h => absurd h Bool.false_ne_true),
        if_neg Bool.false_ne_true, show (k.natAbs : Int) = k by omega]

/-- A whole number is written as a sign or a digit, and then digits. -/
theorem exists_chars_whole (k : Int) : ∃ c s, (Number.whole k).chars = c :: s ∧
    scanChar .between c = some (.numeral [c], []) ∧ ∀ d ∈ s, isNumeralChar d = true := by
  obtain ⟨values, hwritten, hlt, -, hne, -⟩ := Text.exists_toDigits (by decide : 1 < 10) k.natAbs
  have hnumeral : ∀ d ∈ values.map Nat.digitChar, isNumeralChar d = true := by
    intro d hd
    obtain ⟨v, hv, rfl⟩ := List.mem_map.mp hd
    exact isNumeralChar_digitChar (hlt v hv)
  rw [Number.chars]
  split
  · rw [Text.decimal, hwritten]
    exact ⟨_, _, rfl, rfl, hnumeral⟩
  · obtain ⟨v, more, rfl⟩ := List.exists_cons_of_ne_nil hne
    have hv := hlt v List.mem_cons_self
    rw [Text.decimal, show k.toNat = k.natAbs by omega, hwritten]
    refine ⟨_, _, rfl, ?_, fun d hd => hnumeral d (List.mem_cons_of_mem _ hd)⟩
    interval_cases v <;> rfl

/-- **A number is one token.** -/
theorem scanFrom_number {n : Number} (h : n.isExact = true) (hrest : EndsRun rest) :
    scanFrom .between (n.chars ++ rest) =
      (scanFrom .between rest).map (.number (some n) :: ·) := by
  have htoken := numeralToken_chars h
  cases n with
  | double x => cases h
  | whole k =>
    obtain ⟨c, s, hchars, hfirst, hmore⟩ := exists_chars_whole k
    rw [hchars] at htoken
    rw [hchars, scanFrom_numeral hfirst hmore htoken hrest]

/-! ## Texts -/

/-- A piece that the scan finds where a character is written between quotes, and that stands for
it. -/
structure Spells (p : Piece) (c : Char) : Prop where
  /-- What is written is seen as the piece. -/
  scan : ∀ seen rest,
    scanFrom (.text seen) (escape c ++ rest) = scanFrom (.text (p :: seen)) rest
  /-- The piece stands for the character. -/
  join : ∀ rest, joinPieces (p :: rest) = (joinPieces rest).map (c :: ·)

theorem spells_char (hescape : escape c = [c]) (hquote : c ≠ '"') (hslash : c ≠ '\\')
    (hcontrol : ¬ c.toNat < 32) : Spells (.char c) c where
  scan seen rest := by
    rw [hescape, List.singleton_append]
    exact scanFrom_cons (by rw [scanChar, if_neg hquote, if_neg hslash, if_neg hcontrol])
  join rest := rfl

theorem spells_short {letter : Char} (hescape : escape c = ['\\', letter]) (hu : letter ≠ 'u')
    (hletter : shortEscape letter = some c) : Spells (.char c) c where
  scan seen rest := by
    rw [hescape, List.cons_append, List.cons_append, scanFrom_cons rfl,
      scanFrom_cons (by rw [scanChar, if_neg hu, hletter]; rfl), List.nil_append]
  join rest := rfl

/-- A unit is read off its four digits. -/
theorem scanFrom_unit {seen : List Piece} (hlt : ∀ v ∈ values, v < 16) (hl : values.length = 4) :
    scanFrom (.unit seen 4 0) (values.map Nat.digitChar ++ rest) =
      scanFrom (.text (.unit (Text.ofDigits 16 values) :: seen)) rest := by
  obtain ⟨v₁, v₂, v₃, v₄, rfl⟩ := List.length_eq_four.mp hl
  simp only [List.forall_mem_cons] at hlt
  obtain ⟨h₁, h₂, h₃, h₄, -⟩ := hlt
  simp only [List.map_cons, List.map_nil, List.cons_append, List.nil_append]
  rw [scanFrom_cons (by rw [scanChar, Text.hexValue_digitChar h₁]; rfl),
    scanFrom_cons (by rw [scanChar, Text.hexValue_digitChar h₂]; rfl),
    scanFrom_cons (by rw [scanChar, Text.hexValue_digitChar h₃]; rfl),
    scanFrom_cons (by rw [scanChar, Text.hexValue_digitChar h₄]; rfl)]
  rfl

theorem spells_unit
    (hescape : escape c = ['\\', 'u'] ++ Text.zeroPad 4 (Text.hexadecimal c.toNat))
    (hcontrol : c.toNat < 32) : Spells (.unit c.toNat) c where
  scan seen rest := by
    obtain ⟨values, hwritten, hlt, hvalue, -, hl⟩ :=
      Text.exists_zeroPad (by decide : 1 < 16) 4 c.toNat
    rw [hescape, Text.hexadecimal, hwritten, List.append_assoc, List.cons_append,
      List.singleton_append, scanFrom_cons rfl, scanFrom_cons rfl,
      scanFrom_unit hlt (hl (by decide) (by omega)), hvalue]
  join rest := by
    rw [joinPieces.eq_def]
    exact (if_pos (.inl (by omega))).trans (by rw [Char.ofNat_toNat])

/-- **Every character is written as a piece that stands for it.** -/
theorem exists_spells (c : Char) : ∃ p, Spells p c := by
  have hescape := escape.eq_1 c
  split_ifs at hescape with hquote hslash hnewline hreturn htab hback hfeed hcontrol
  · exact ⟨_, spells_short hescape (by decide) (by rw [hquote]; rfl)⟩
  · exact ⟨_, spells_short hescape (by decide) (by rw [hslash]; rfl)⟩
  · exact ⟨_, spells_short hescape (by decide) (by rw [hnewline]; rfl)⟩
  · exact ⟨_, spells_short hescape (by decide) (by rw [hreturn]; rfl)⟩
  · exact ⟨_, spells_short hescape (by decide) (by rw [htab]; rfl)⟩
  · have hc : Char.ofNat 8 = c := hback ▸ Char.ofNat_toNat c
    exact ⟨_, spells_short hescape (by decide) (congrArg some hc)⟩
  · have hc : Char.ofNat 12 = c := hfeed ▸ Char.ofNat_toNat c
    exact ⟨_, spells_short hescape (by decide) (congrArg some hc)⟩
  · exact ⟨_, spells_unit hescape hcontrol⟩
  · exact ⟨_, spells_char hescape hquote hslash hcontrol⟩

/-- What stands between quotes is seen as pieces that come to the text. -/
theorem exists_pieces (s : List Char) : ∃ pieces : List Piece, joinPieces pieces = some s ∧
    ∀ seen rest, scanFrom (.text seen) (s.flatMap escape ++ rest) =
      scanFrom (.text (pieces.reverse ++ seen)) rest := by
  induction s with
  | nil => exact ⟨[], rfl, fun _ _ => rfl⟩
  | cons c s ih =>
    obtain ⟨p, hp⟩ := exists_spells c
    obtain ⟨pieces, hjoin, hscan⟩ := ih
    refine ⟨p :: pieces, by rw [hp.join, hjoin]; rfl, fun seen rest => ?_⟩
    rw [List.flatMap_cons, List.append_assoc, hp.scan, hscan, List.reverse_cons, List.append_assoc,
      List.singleton_append]

/-- **A text between quotes is one token.** -/
theorem scanFrom_textChars (s : String) :
    scanFrom .between (textChars s ++ rest) =
      (scanFrom .between rest).map (.text (some s) :: ·) := by
  obtain ⟨pieces, hjoin, hscan⟩ := exists_pieces s.toList
  have htext : (joinPieces (pieces.reverse ++ []).reverse).map String.ofList = some s := by
    rw [List.append_nil, List.reverse_reverse, hjoin, Option.map_some, String.ofList_toList]
  rw [textChars, List.cons_append, List.cons_append, List.append_assoc, scanFrom_cons rfl, hscan,
    List.singleton_append, scanFrom_cons_token (by rw [scanChar, if_pos rfl, htext])]

/-! ## Values -/

mutual

/-- Whether all numbers in a value are whole and read as written. -/
def isExact : Json → Bool
  | null | bool _ | text _ => true
  | number n => n.isExact
  | array items => itemsExact items
  | object entries => entriesExact entries

/-- Whether all items are exact. -/
def itemsExact : List Json → Bool
  | [] => true
  | v :: rest => isExact v && itemsExact rest

/-- Whether the values of all entries are exact. -/
def entriesExact : List (String × Json) → Bool
  | [] => true
  | (_, v) :: rest => isExact v && entriesExact rest

end

mutual

/-- The tokens of a value. -/
def tokens : Json → List Token
  | null => [.null]
  | bool b => [.bool b]
  | number n => [.number (some n)]
  | text s => [.text (some s)]
  | array items => .openArray :: itemTokens items ++ [.closeArray]
  | object entries => .openObject :: entryTokens entries ++ [.closeObject]

/-- The tokens of items with commas between them. -/
def itemTokens : List Json → List Token
  | [] => []
  | [v] => tokens v
  | v :: w :: rest => tokens v ++ .comma :: itemTokens (w :: rest)

/-- The tokens of entries with commas between them. -/
def entryTokens : List (String × Json) → List Token
  | [] => []
  | [(k, v)] => .text (some k) :: .colon :: tokens v
  | (k, v) :: e :: rest =>
    .text (some k) :: .colon :: tokens v ++ .comma :: entryTokens (e :: rest)

end

mutual

/-- The text of a value in front of what ends a run has the tokens of the value. -/
theorem scanFrom_chars (v : Json) (hv : v.isExact = true) {rest : List Char}
    (hrest : EndsRun rest) :
    scanFrom .between (v.chars ++ rest) = (scanFrom .between rest).map (v.tokens ++ ·) := by
  match v with
  | .null => exact scanFrom_word rfl rfl rfl hrest
  | .bool true => exact scanFrom_word rfl rfl rfl hrest
  | .bool false => exact scanFrom_word rfl rfl rfl hrest
  | .number n => exact scanFrom_number hv hrest
  | .text s => exact scanFrom_textChars s
  | .array items =>
    rw [chars, List.cons_append, List.cons_append, List.append_assoc, List.singleton_append,
      scanFrom_cons_token rfl, scanFrom_itemChars items hv (endsRun_cons rfl rfl),
      scanFrom_cons_token rfl]
    simp [tokens, Function.comp_def]
  | .object entries =>
    rw [chars, List.cons_append, List.cons_append, List.append_assoc, List.singleton_append,
      scanFrom_cons_token rfl, scanFrom_entryChars entries hv (endsRun_cons rfl rfl),
      scanFrom_cons_token rfl]
    simp [tokens, Function.comp_def]

theorem scanFrom_itemChars (items : List Json) (hv : itemsExact items = true) {rest : List Char}
    (hrest : EndsRun rest) : scanFrom .between (itemChars items ++ rest) =
      (scanFrom .between rest).map (itemTokens items ++ ·) := by
  match items with
  | [] => exact Option.map_id_apply.symm
  | [v] =>
    obtain ⟨hv, -⟩ := (Bool.and_eq_true _ _).mp hv
    exact scanFrom_chars v hv hrest
  | v :: w :: more =>
    obtain ⟨hv, hmore⟩ := (Bool.and_eq_true _ _).mp hv
    rw [itemChars, List.append_assoc, List.cons_append, scanFrom_chars v hv (endsRun_cons rfl rfl),
      scanFrom_cons_token rfl, scanFrom_itemChars (w :: more) hmore hrest]
    simp [itemTokens, Function.comp_def]

theorem scanFrom_entryChars (entries : List (String × Json)) (hv : entriesExact entries = true)
    {rest : List Char} (hrest : EndsRun rest) :
    scanFrom .between (entryChars entries ++ rest) =
      (scanFrom .between rest).map (entryTokens entries ++ ·) := by
  match entries with
  | [] => exact Option.map_id_apply.symm
  | [(k, v)] =>
    obtain ⟨hv, -⟩ := (Bool.and_eq_true _ _).mp hv
    rw [entryChars, List.append_assoc, List.cons_append, scanFrom_textChars,
      scanFrom_cons_token rfl, scanFrom_chars v hv hrest]
    simp [entryTokens, Function.comp_def]
  | (k, v) :: e :: more =>
    obtain ⟨hv, hmore⟩ := (Bool.and_eq_true _ _).mp hv
    rw [entryChars]
    simp only [List.append_assoc, List.cons_append]
    rw [scanFrom_textChars, scanFrom_cons_token rfl, scanFrom_chars v hv (endsRun_cons rfl rfl),
      scanFrom_cons_token rfl, scanFrom_entryChars (e :: more) hmore hrest]
    simp [entryTokens, Function.comp_def]

end

/-- **The text of an exact value has the tokens of the value.** -/
theorem ofChars?_chars {v : Json} (hv : v.isExact = true) :
    Token.ofChars? v.chars = some v.tokens := by
  have hscan := scanFrom_chars v hv endsRun_nil
  rw [List.append_nil] at hscan
  rw [Token.ofChars?, hscan, scanFrom, scanEnd, Option.map_some, List.append_nil]

end Json
end ScanService
