import Confluence.Json.Codec
import Confluence.Proofs.Number.Digits

/-!
# JSON values are read back from their texts

Each reader takes off the front of a text what its writer put there, and leaves the rest. Only a
number needs to know how the rest begins, since it goes on as long as it can.
-/

namespace Confluence.Json

variable {rest s : List Char} {fuel : Nat} {c : Char}

lemma skipSpace_cons (hc : isSpace c = false) (s : List Char) : skipSpace (c :: s) = c :: s := by
  rw [skipSpace, List.dropWhile_cons_of_neg (by simp [hc])]

/-! ### Numbers -/

/-- A text that does not go on with anything that a number could go on with. -/
def EndsNumber (rest : List Char) : Prop :=
  ∀ c ∈ rest.head?, Digits.isDigit c = false ∧ c ≠ '.' ∧ c ≠ 'e' ∧ c ≠ 'E'

lemma endsNumber_nil : EndsNumber [] := nofun

lemma endsNumber_cons (hc : c = ',' ∨ c = ']' ∨ c = '\x7d') (s : List Char) :
    EndsNumber (c :: s) := by
  rintro d ⟨⟩
  rcases hc with rfl | rfl | rfl <;> decide

lemma EndsNumber.endsHere (h : EndsNumber rest) : Digits.EndsHere rest := fun c hc => (h c hc).1

lemma readDigits?_append {ds : List Char} (hds : Digits.AllDigits ds) (hne : ds ≠ [])
    (hrest : Digits.EndsHere rest) : readDigits? (ds ++ rest) = some (ds, rest) := by
  simp only [readDigits?, Digits.takeWhile_append hds hrest, if_neg hne, List.drop_left]

lemma EndsNumber.readFraction? (h : EndsNumber rest) : readFraction? rest = some ([], rest) := by
  unfold Json.readFraction?
  split
  · exact absurd rfl (h _ rfl).2.1
  · rfl

lemma EndsNumber.readExponent? (h : EndsNumber rest) : readExponent? rest = some (none, rest) := by
  cases rest with
  | nil => rfl
  | cons c rest =>
    have hc := h c rfl
    unfold Json.readExponent?
    exact if_neg (not_or.mpr hc.2.2)

lemma readMagnitude?_ofNat {negative : Bool} {n : Nat} (hn : negative = true → n ≠ 0)
    (h : EndsNumber rest) :
    readMagnitude? negative (Digits.ofNat n ++ rest) =
      some (.integer (if negative then -(n : Int) else n), rest) := by
  have hpoint : rest.head? ≠ some '.' := fun hhead => (h '.' hhead).2.1 rfl
  have hzero : ¬ ((Digits.ofNat n).length > 1 ∧ (Digits.ofNat n).head? = some '0') := by
    rintro ⟨hlen, hhead⟩
    by_cases hn : n = 0
    · subst hn
      exact absurd hlen (by decide)
    · exact Digits.head?_ofNat_ne_zero hn hhead
  have hsign : ¬ (negative = true ∧ n = 0) := fun hboth => hn hboth.1 hboth.2
  simp only [readMagnitude?, readDigits?_append (Digits.allDigits_ofNat n) (Digits.ofNat_ne_nil n)
    h.endsHere, h.readFraction?, h.readExponent?, Digits.toNat_ofNat, Option.bind_eq_bind,
    Option.bind_some, if_neg hzero]
  rw [if_pos]
  exact ⟨hpoint, trivial, hsign⟩

/-! ### Strings -/

lemma hexValue?_hexDigit {n : Nat} (h : n < 16) : hexValue? (hexDigit n) = some n := by
  revert n
  decide

lemma readEscape?_letterEscape {e : Char} (h : letterEscape? c = some e) (s : List Char) :
    readEscape? (e :: s) = some (c, s) := by
  unfold letterEscape? at h
  split_ifs at h with h₁ h₂ h₃ h₄ h₅ h₆ h₇ <;> cases h <;> subst c <;> rfl

/-- A control character is read back from the escape with its number. -/
lemma readEscape?_control (hc : c.toNat < 32) (s : List Char) :
    readEscape? ('u' :: '0' :: '0' :: hexDigit (c.toNat / 16) :: hexDigit (c.toNat % 16) :: s) =
      some (c, s) := by
  have hhex : readHex4? ('0' :: '0' :: hexDigit (c.toNat / 16) :: hexDigit (c.toNat % 16) :: s) =
      some (c.toNat, s) := by
    have hzero : hexValue? '0' = some 0 := by decide
    simp only [readHex4?, hzero, hexValue?_hexDigit (show c.toNat / 16 < 16 by omega),
      hexValue?_hexDigit (Nat.mod_lt c.toNat (by decide : 16 > 0)), Option.bind_eq_bind,
      Option.bind_some, Option.some.injEq, Prod.mk.injEq, and_true]
    omega
  rw [readEscape?, readUnicode?, hhex, Option.bind_eq_bind, Option.bind_some]
  simp only
  rw [if_neg (by omega), if_neg (by omega), Char.ofNat_toNat]

/-- A character of a string is read back. -/
lemma readChars?_writeChar (c : Char) (acc s : List Char) :
    readChars? (fuel + 1) acc (writeChar c ++ s) = readChars? fuel (c :: acc) s := by
  rw [writeChar]
  cases hletter : letterEscape? c with
  | some e =>
    show readChars? (fuel + 1) acc ('\\' :: e :: s) = _
    rw [readChars?, if_neg (by decide), if_pos rfl, readEscape?_letterEscape hletter]
    rfl
  | none =>
    simp only
    split
    next hc =>
      rw [List.cons_append, readChars?, if_neg (by decide), if_pos rfl]
      simp only [List.cons_append, List.nil_append]
      rw [readEscape?_control hc]
      rfl
    next hc =>
      have hquote : c ≠ '\x22' := by
        rintro rfl
        cases hletter
      have hback : c ≠ '\\' := by
        rintro rfl
        cases hletter
      rw [List.singleton_append, readChars?, if_neg hquote, if_neg hback, if_neg hc]

lemma readChars?_flatMap {cs acc : List Char} (hfuel : cs.length < fuel) (rest : List Char) :
    readChars? fuel acc (cs.flatMap writeChar ++ '\x22' :: rest) =
      some (cs.reverse ++ acc, rest) := by
  induction cs generalizing fuel acc with
  | nil =>
    obtain ⟨fuel, rfl⟩ := Nat.exists_eq_add_of_lt hfuel
    rw [List.flatMap_nil, List.nil_append, readChars?]
    rfl
  | cons c cs ih =>
    obtain ⟨fuel, rfl⟩ : ∃ k, fuel = k + 1 := ⟨fuel - 1, by omega⟩
    rw [List.flatMap_cons, List.append_assoc, readChars?_writeChar,
      ih (by simpa using hfuel), List.reverse_cons, List.append_assoc]
    rfl

/-- A string is read back, once its opening quote is passed. -/
lemma readString?_write {t : String} (hfuel : t.toList.length < fuel) (rest : List Char) :
    readString? fuel (t.toList.flatMap writeChar ++ '\x22' :: rest) = some (t, rest) := by
  rw [readString?, readChars?_flatMap hfuel, Option.map_some, List.append_nil]
  simp only [List.reverse_reverse, String.ofList_toList]

/-! ### Values -/

lemma isSpace_of_isDigit (hc : Digits.isDigit c = true) : isSpace c = false := by
  obtain ⟨h, -⟩ := Digits.isDigit_iff.mp hc
  simp only [isSpace, Bool.or_eq_false_iff, decide_eq_false_iff_not]
  refine ⟨⟨⟨?_, ?_⟩, ?_⟩, ?_⟩ <;>
  · rintro rfl
    exact absurd h (by decide)

lemma readValue?_digit (hc : Digits.isDigit c = true) (s : List Char) :
    readValue? (fuel + 1) (c :: s) = readMagnitude? false (c :: s) := by
  rw [readValue?.eq_def]
  simp only [skipSpace_cons (isSpace_of_isDigit hc)]
  split
  case h_8 => rfl
  all_goals
    next heq =>
      cases heq
      exact absurd hc (by decide)

lemma readValue?_ofInt (n : Int) (h : EndsNumber rest) :
    readValue? (fuel + 1) (Digits.ofInt n ++ rest) = some (.integer n, rest) := by
  rw [Digits.ofInt]
  split
  next hneg =>
    show readMagnitude? true (Digits.ofNat n.natAbs ++ rest) = _
    rw [readMagnitude?_ofNat (fun _ => by omega) h, if_pos rfl]
    simp only [Option.some.injEq, Prod.mk.injEq, integer.injEq, and_true]
    omega
  next hpos =>
    have hread : readMagnitude? false (Digits.ofNat n.natAbs ++ rest) =
        some (.integer n.natAbs, rest) := readMagnitude?_ofNat nofun h
    obtain ⟨c, ds, hdigits, hc⟩ := Digits.exists_cons_of_allDigits
      (Digits.allDigits_ofNat n.natAbs) (Digits.ofNat_ne_nil _)
    rw [hdigits] at hread ⊢
    rw [List.cons_append, readValue?_digit hc, ← List.cons_append, hread]
    simp only [Option.some.injEq, Prod.mk.injEq, integer.injEq, and_true]
    omega

/-- How a value begins: not with a blank, nor with what would end an array or an object. -/
lemma exists_write_eq_cons {v : Json} (hv : v.isPlain = true) :
    ∃ c s, v.write = c :: s ∧ isSpace c = false ∧ c ≠ ']' := by
  cases v with
  | null => exact ⟨_, _, rfl, by decide, by decide⟩
  | bool b => cases b <;> exact ⟨_, _, rfl, by decide, by decide⟩
  | integer n =>
    rw [write, Digits.ofInt]
    split
    · exact ⟨_, _, rfl, by decide, by decide⟩
    · obtain ⟨c, ds, hdigits, hc⟩ := Digits.exists_cons_of_allDigits
        (Digits.allDigits_ofNat n.natAbs) (Digits.ofNat_ne_nil _)
      refine ⟨c, ds, hdigits, isSpace_of_isDigit hc, ?_⟩
      rintro rfl
      exact absurd hc (by decide)
  | real n => cases hv
  | string t => exact ⟨_, _, rfl, by decide, by decide⟩
  | array items => exact ⟨_, _, rfl, by decide, by decide⟩
  | object fields => exact ⟨_, _, rfl, by decide, by decide⟩

lemma length_le_flatMap_writeChar (cs : List Char) :
    cs.length ≤ (cs.flatMap writeChar).length := by
  induction cs with
  | nil => exact Nat.le_refl 0
  | cons c cs ih =>
    have hc : 0 < (writeChar c).length := by
      rw [writeChar]
      split
      · exact Nat.succ_pos _
      · split <;> exact Nat.succ_pos _
    rw [List.flatMap_cons, List.length_append, List.length_cons]
    omega

/-- The name of a field is read back. -/
lemma readString?_writeString (t : String) (hfuel : (writeString t).length ≤ fuel) (s : List Char) :
    ∃ u, writeString t ++ s = '\x22' :: u ∧ readString? fuel u = some (t, s) := by
  have hlen := length_le_flatMap_writeChar t.toList
  refine ⟨t.toList.flatMap writeChar ++ '\x22' :: s, ?_, readString?_write ?_ s⟩
  · rw [writeString, List.append_assoc]
    rfl
  · rw [writeString, List.length_append, List.length_cons] at hfuel
    simp only [List.length_singleton] at hfuel
    omega

/-! ### Arrays and objects -/

lemma writeItems_cons_cons (v w : Json) (vs : List Json) :
    writeItems (v :: w :: vs) = v.write ++ ',' :: writeItems (w :: vs) := by
  rw [writeItems]
  exact nofun

lemma writeFields_cons_cons (name : String) (v : Json) (field : String × Json)
    (fields : List (String × Json)) :
    writeFields ((name, v) :: field :: fields) =
      writeString name ++ ':' :: (v.write ++ ',' :: writeFields (field :: fields)) := by
  rw [writeFields, List.append_assoc]
  · rfl
  · exact nofun

lemma exists_writeItems_eq_cons {v : Json} {vs : List Json} (hv : allPlain (v :: vs) = true) :
    ∃ c s, writeItems (v :: vs) = c :: s ∧ isSpace c = false ∧ c ≠ ']' := by
  rw [allPlain, Bool.and_eq_true] at hv
  obtain ⟨c, s, hs, hc⟩ := exists_write_eq_cons hv.1
  cases vs with
  | nil => exact ⟨c, s ++ [']'], by rw [writeItems, hs, List.cons_append], hc⟩
  | cons w vs =>
    exact ⟨c, s ++ ',' :: writeItems (w :: vs), by rw [writeItems_cons_cons, hs, List.cons_append],
      hc⟩

lemma exists_writeFields_eq_cons (field : String × Json) (fields : List (String × Json)) :
    ∃ s, writeFields (field :: fields) = '\x22' :: s := by
  cases fields <;> exact ⟨_, rfl⟩

lemma readValue?_of_readItems? {items : List Json} (hspace : isSpace c = false) (hc : c ≠ ']')
    (h : readItems? fuel (c :: s) = some (items, rest)) :
    readValue? (fuel + 1) ('[' :: c :: s) = some (.array items, rest) := by
  rw [readValue?.eq_def]
  simp only [skipSpace_cons (show isSpace '[' = false by decide), skipSpace_cons hspace]
  split
  next heq =>
    cases heq
    exact absurd rfl hc
  next => rw [h, Option.map_some]

lemma readValue?_of_readFields? {fields : List (String × Json)}
    (h : readFields? fuel ('\x22' :: s) = some (fields, rest)) :
    readValue? (fuel + 1) ('\x7b' :: '\x22' :: s) = some (.object fields, rest) := by
  show (readFields? fuel ('\x22' :: s)).map _ = _
  rw [h]
  rfl

/-- A field is read by its name and its value. -/
lemma readFields?_eq {name : String} {v : Json} {u t : List Char}
    (hname : readString? (fuel + 1) s = some (name, ':' :: u))
    (hvalue : readValue? fuel u = some (v, t)) :
    readFields? (fuel + 1) ('\x22' :: s) =
      match skipSpace t with
      | ',' :: s => (readFields? fuel s).map fun (fs, s) => ((name, v) :: fs, s)
      | '\x7d' :: s => some ([(name, v)], s)
      | _ => none := by
  have h := readFields?.eq_def (fuel + 1) ('\x22' :: s)
  simp only [skipSpace_cons (show isSpace '\x22' = false by decide), hname,
    skipSpace_cons (show isSpace ':' = false by decide), hvalue] at h
  exact h

mutual

/-- A value is read back, and the text behind it is left. A value takes at least one character for
each two steps of the reader. -/
lemma readValue?_write : (v : Json) → v.isPlain = true → ∀ {fuel : Nat} {rest : List Char},
    EndsNumber rest → 2 * v.write.length ≤ fuel + 1 →
      readValue? (fuel + 1) (v.write ++ rest) = some (v, rest)
  | .null, _, _, _, _, _ => rfl
  | .bool true, _, _, _, _, _ => rfl
  | .bool false, _, _, _, _, _ => rfl
  | .integer n, _, _, _, hrest, _ => by
    rw [write, readValue?_ofInt n hrest]
  | .real _, hv, _, _, _, _ => nomatch hv
  | .string t, _, fuel, rest, _, hfuel => by
    rw [write] at hfuel ⊢
    obtain ⟨u, hu, hread⟩ := readString?_writeString t (show _ ≤ fuel + 1 by omega) rest
    rw [hu]
    show (readString? (fuel + 1) u).map _ = _
    rw [hread]
    rfl
  | .array [], _, _, _, _, _ => rfl
  | .array (v :: vs), hv, fuel, rest, _, hfuel => by
    rw [isPlain] at hv
    rw [write, List.length_cons] at hfuel
    obtain ⟨fuel, rfl⟩ : ∃ k, fuel = k + 1 := ⟨fuel - 1, by omega⟩
    have hread : readItems? (fuel + 1) (writeItems (v :: vs) ++ rest) = some (v :: vs, rest) :=
      readItems?_write (v :: vs) (List.cons_ne_nil v vs) hv (by omega)
    obtain ⟨c, s, hs, hspace, hclose⟩ := exists_writeItems_eq_cons hv
    rw [hs, List.cons_append] at hread
    rw [write, hs]
    exact readValue?_of_readItems? hspace hclose hread
  | .object [], _, _, _, _, _ => rfl
  | .object (field :: fields), hv, fuel, rest, _, hfuel => by
    rw [isPlain, Bool.and_eq_true] at hv
    rw [write, List.length_cons] at hfuel
    obtain ⟨fuel, rfl⟩ : ∃ k, fuel = k + 1 := ⟨fuel - 1, by omega⟩
    have hread : readFields? (fuel + 1) (writeFields (field :: fields) ++ rest) =
        some (field :: fields, rest) :=
      readFields?_write (field :: fields) (List.cons_ne_nil field fields) hv.2 (by omega)
    obtain ⟨s, hs⟩ := exists_writeFields_eq_cons field fields
    rw [hs, List.cons_append] at hread
    rw [write, hs]
    exact readValue?_of_readFields? hread

lemma readItems?_write : (items : List Json) → items ≠ [] → allPlain items = true →
    ∀ {fuel : Nat} {rest : List Char}, 2 * (writeItems items).length ≤ fuel + 1 →
      readItems? (fuel + 1) (writeItems items ++ rest) = some (items, rest)
  | [], hne, _, _, _, _ => absurd rfl hne
  | [v], _, hv, fuel, rest, hfuel => by
    rw [allPlain, Bool.and_eq_true] at hv
    rw [writeItems, List.length_append, List.length_singleton] at hfuel
    obtain ⟨fuel, rfl⟩ : ∃ k, fuel = k + 1 := ⟨fuel - 1, by omega⟩
    have hread : readValue? (fuel + 1) (v.write ++ ']' :: rest) = some (v, ']' :: rest) :=
      readValue?_write v hv.1 (endsNumber_cons (Or.inr (Or.inl rfl)) rest) (by omega)
    rw [writeItems, List.append_assoc, List.singleton_append, readItems?, hread]
    rfl
  | v :: w :: vs, _, hv, fuel, rest, hfuel => by
    rw [allPlain, Bool.and_eq_true] at hv
    rw [writeItems_cons_cons, List.length_append, List.length_cons] at hfuel
    obtain ⟨fuel, rfl⟩ : ∃ k, fuel = k + 1 := ⟨fuel - 1, by omega⟩
    have hread : readValue? (fuel + 1) (v.write ++ ',' :: (writeItems (w :: vs) ++ rest)) =
        some (v, ',' :: (writeItems (w :: vs) ++ rest)) :=
      readValue?_write v hv.1 (endsNumber_cons (Or.inl rfl) _) (by omega)
    have hrest : readItems? (fuel + 1) (writeItems (w :: vs) ++ rest) = some (w :: vs, rest) :=
      readItems?_write (w :: vs) (List.cons_ne_nil w vs) hv.2 (by omega)
    rw [writeItems_cons_cons, List.append_assoc, List.cons_append, readItems?, hread]
    show (readItems? (fuel + 1) (writeItems (w :: vs) ++ rest)).map _ = _
    rw [hrest]
    rfl

lemma readFields?_write : (fields : List (String × Json)) → fields ≠ [] →
    allFieldsPlain fields = true → ∀ {fuel : Nat} {rest : List Char},
      2 * (writeFields fields).length ≤ fuel + 1 →
        readFields? (fuel + 1) (writeFields fields ++ rest) = some (fields, rest)
  | [], hne, _, _, _, _ => absurd rfl hne
  | [(name, v)], _, hv, fuel, rest, hfuel => by
    rw [allFieldsPlain, Bool.and_eq_true] at hv
    simp only [writeFields, List.length_append, List.length_cons] at hfuel
    obtain ⟨fuel, rfl⟩ : ∃ k, fuel = k + 1 := ⟨fuel - 1, by omega⟩
    have hread : readValue? (fuel + 1) (v.write ++ '\x7d' :: rest) = some (v, '\x7d' :: rest) :=
      readValue?_write v hv.1 (endsNumber_cons (Or.inr (Or.inr rfl)) rest) (by omega)
    obtain ⟨u, hu, hname⟩ := readString?_writeString name (show _ ≤ fuel + 1 + 1 by omega)
      (':' :: (v.write ++ '\x7d' :: rest))
    rw [writeFields, List.append_assoc, List.append_assoc, List.singleton_append, List.cons_append,
      hu, readFields?_eq hname hread]
    rfl
  | (name, v) :: field :: fields, _, hv, fuel, rest, hfuel => by
    rw [allFieldsPlain, Bool.and_eq_true] at hv
    simp only [writeFields_cons_cons, List.length_append, List.length_cons] at hfuel
    obtain ⟨fuel, rfl⟩ : ∃ k, fuel = k + 1 := ⟨fuel - 1, by omega⟩
    have hread : readValue? (fuel + 1) (v.write ++ ',' :: (writeFields (field :: fields) ++ rest)) =
        some (v, ',' :: (writeFields (field :: fields) ++ rest)) :=
      readValue?_write v hv.1 (endsNumber_cons (Or.inl rfl) _) (by omega)
    have hrest : readFields? (fuel + 1) (writeFields (field :: fields) ++ rest) =
        some (field :: fields, rest) :=
      readFields?_write (field :: fields) (List.cons_ne_nil field fields) hv.2 (by omega)
    obtain ⟨u, hu, hname⟩ := readString?_writeString name (show _ ≤ fuel + 1 + 1 by omega)
      (':' :: (v.write ++ ',' :: (writeFields (field :: fields) ++ rest)))
    rw [writeFields_cons_cons, List.append_assoc, List.cons_append, List.append_assoc,
      List.cons_append, hu, readFields?_eq hname hread]
    show (readFields? (fuel + 1) (writeFields (field :: fields) ++ rest)).map _ = _
    rw [hrest]
    rfl

end

/-- A plain value is read back from its text. -/
theorem ofText?_text {v : Json} (hv : v.isPlain = true) : ofText? v.text = some v := by
  have hread : readValue? (2 * v.write.length + 2) (v.write ++ []) = some (v, []) :=
    readValue?_write v hv endsNumber_nil (by omega)
  rw [List.append_nil] at hread
  simp only [ofText?, text, String.toList_ofList, hread]
  rfl

theorem faithful_compactCodec (limit : Option Nat) : (compactCodec limit).Faithful where
  read_write {v} hv htakes := by
    have htaken : (limit.all fun l => v.depth ≤ l) = true := by
      rw [Option.all_eq_true_iff_get]
      exact fun h => decide_eq_true (htakes _ (Option.get_mem h))
    show (ofText? v.text).filter _ = some v
    rw [ofText?_text hv, Option.filter_some, if_pos htaken]

end Confluence.Json
