import SparqlBag.Expr.Builtin

/-!
# Which function calls stop the query

A function call gives a term or the error value; it stops the query only where
it cuts a text inside a character.  `STRBEFORE` and `STRAFTER` cut at the byte
offset of the first occurrence of their second argument, and that offset is the
byte length of the characters before the occurrence (`firstOffset_toUTF8`): a
match of encoded text starts only where a character does, because an encoding
starts with a first byte and goes on with continuation bytes.  `LANGMATCHES`
cuts the tag at the byte length of the range, which may fall inside a
character of the tag (`callFunction_fails_only_inside_character`).
-/

namespace SparqlBag

/-! ## The bytes of a text -/

section Bytes

theorem ByteArray.toList_loop (bs : ByteArray) (i : Nat) (r : List UInt8) :
    ByteArray.toList.loop bs i r = r.reverse ++ bs.data.toList.drop i := by
  fun_induction ByteArray.toList.loop bs i r with
  | case1 i r hi ih =>
    rw [ih]
    have hi' : i < bs.data.toList.length := by simpa using hi
    simp [ByteArray.get!, hi, List.drop_eq_getElem_cons hi']
  | case2 i r hi =>
    have hend : bs.data.toList.length ≤ i := by simpa using Nat.le_of_not_lt hi
    simp only [List.drop_eq_nil_of_le hend, List.append_nil]

theorem ByteArray.toList_eq (bs : ByteArray) : bs.toList = bs.data.toList := by
  simp [ByteArray.toList, ByteArray.toList_loop]

/-- The bytes of a text are the encodings of its characters. -/
theorem toList_toUTF8 (s : String) : s.toUTF8.toList = s.toList.flatMap String.utf8EncodeChar := by
  rw [String.toUTF8_eq_toByteArray, ← String.utf8Encode_toList, ByteArray.toList_eq, List.utf8Encode,
    List.toList_data_toByteArray]

/-- The byte length of characters is the length of their encodings. -/
theorem utf8ByteSize_ofList (l : List Char) :
    (String.ofList l).utf8ByteSize = (l.flatMap String.utf8EncodeChar).length := by
  have h := congrArg List.length (toList_toUTF8 (String.ofList l))
  rw [String.toList_ofList, ByteArray.toList_eq, Array.length_toList] at h
  rw [← h, String.toUTF8_eq_toByteArray]
  exact String.size_toByteArray.symm

end Bytes

/-! ## Encodings of characters -/

section Encoding

/-- **An encoding starts with a first byte and goes on with continuation bytes.** -/
theorem utf8EncodeChar_eq_cons (c : Char) : ∃ b bs, String.utf8EncodeChar c = b :: bs ∧
    b.IsUTF8FirstByte ∧ ∀ x ∈ bs, ¬ x.IsUTF8FirstByte := by
  obtain ⟨b, bs, h⟩ := List.exists_cons_of_ne_nil (String.utf8EncodeChar_ne_nil (c := c))
  have hbyte : ∀ i (hi : i < (String.utf8EncodeChar c).length),
      ((String.utf8EncodeChar c)[i]).IsUTF8FirstByte ↔ i = 0 :=
    fun _ _ => UInt8.isUTF8FirstByte_getElem_utf8EncodeChar
  refine ⟨b, bs, h, ?_, fun x hx => ?_⟩
  · have := hbyte 0 (by simp [h])
    simpa [h] using this
  · obtain ⟨j, hj, rfl⟩ := List.getElem_of_mem hx
    have := hbyte (j + 1) (by simp [h, hj])
    simpa [h] using this

/-- **Encodings form a prefix code**: two encoded texts that start alike start
with the same character. -/
theorem eq_of_utf8EncodeChar_append {c d : Char} {X Y : List UInt8}
    (h : String.utf8EncodeChar c ++ X = String.utf8EncodeChar d ++ Y) : c = d := by
  have hc := ByteArray.utf8DecodeChar?_utf8EncodeChar_append (b := X.toByteArray) (c := c)
  have hd := ByteArray.utf8DecodeChar?_utf8EncodeChar_append (b := Y.toByteArray) (c := d)
  rw [← List.toByteArray_append, h, List.toByteArray_append, hd] at hc
  exact (Option.some.inj hc).symm

/-- One encoded text starts another exactly when its characters start the other's. -/
theorem flatMap_utf8EncodeChar_prefix_iff :
    ∀ {ns cs : List Char},
      ns.flatMap String.utf8EncodeChar <+: cs.flatMap String.utf8EncodeChar ↔ ns <+: cs
  | [], _ => by simp
  | n :: ns, [] => by
    obtain ⟨b, bs, hn, -⟩ := utf8EncodeChar_eq_cons n
    simp [hn]
  | n :: ns, c :: cs => by
    rw [List.cons_prefix_cons, ← @flatMap_utf8EncodeChar_prefix_iff ns cs,
      List.flatMap_cons, List.flatMap_cons]
    constructor
    · rintro ⟨Z, hZ⟩
      rw [List.append_assoc] at hZ
      have hnc := eq_of_utf8EncodeChar_append hZ
      subst hnc
      exact ⟨rfl, Z, List.append_cancel_left hZ⟩
    · rintro ⟨rfl, Z, hZ⟩
      exact ⟨Z, by rw [List.append_assoc, hZ]⟩

end Encoding

/-! ## Where a first occurrence falls -/

section Offsets

/-- A search skips bytes that start no character when the needle starts with
one that does. -/
theorem firstOffset_append_of_continuation {needle : List UInt8} {n : UInt8} {ns : List UInt8}
    (hneedle : needle = n :: ns) (hn : n.IsUTF8FirstByte) {X : List UInt8} :
    ∀ {l : List UInt8}, (∀ b ∈ l, ¬ b.IsUTF8FirstByte) →
      firstOffset needle (l ++ X) = (firstOffset needle X).map (· + l.length)
  | [], _ => by simp
  | b :: l, hl => by
    have hnb : n ≠ b := fun h => hl b List.mem_cons_self (h ▸ hn)
    have hskip : needle.isPrefixOf (b :: (l ++ X)) = false := by
      simp [hneedle, List.isPrefixOf, hnb]
    rw [List.cons_append, firstOffset, if_neg (by simp [hskip]),
      firstOffset_append_of_continuation hneedle hn fun x hx => hl x (List.mem_cons_of_mem _ hx),
      Option.map_map]
    congr 1

/-- **The byte offset of a first occurrence is the byte length of the
characters before it**, by induction on the characters of the text. -/
theorem firstOffset_flatMap (ns : List Char) :
    ∀ cs : List Char, firstOffset (ns.flatMap String.utf8EncodeChar) (cs.flatMap String.utf8EncodeChar) =
      (splitFirst ns cs).map fun p => (p.1.flatMap String.utf8EncodeChar).length
  | [] => by
    cases ns with
    | nil => rfl
    | cons n ns =>
      obtain ⟨b, bs, hn, -⟩ := utf8EncodeChar_eq_cons n
      simp [firstOffset, splitFirst, hn]
  | c :: cs => by
    obtain ⟨b, bs, hc, hb, hbs⟩ := utf8EncodeChar_eq_cons c
    have hprefix : (ns.flatMap String.utf8EncodeChar).isPrefixOf (b :: (bs ++ cs.flatMap String.utf8EncodeChar)) =
        ns.isPrefixOf (c :: cs) := by
      have henc : b :: (bs ++ cs.flatMap String.utf8EncodeChar) = (c :: cs).flatMap String.utf8EncodeChar := by
        rw [List.flatMap_cons, hc, List.cons_append]
      rw [henc, Bool.eq_iff_iff, List.isPrefixOf_iff_prefix, List.isPrefixOf_iff_prefix]
      exact flatMap_utf8EncodeChar_prefix_iff
    rw [List.flatMap_cons, hc, List.cons_append, firstOffset, splitFirst, hprefix]
    split
    · rfl
    -- No match at the first character: the needle is not empty, so it starts
    -- with a first byte, and the search passes the character's continuation bytes.
    · rename_i hnot
      obtain ⟨n, ns', rfl⟩ : ∃ n ns', ns = n :: ns' := by
        cases ns with
        | nil => simp at hnot
        | cons n ns' => exact ⟨n, ns', rfl⟩
      obtain ⟨n₀, nbs, hn, hn₀, -⟩ := utf8EncodeChar_eq_cons n
      rw [firstOffset_append_of_continuation (by rw [List.flatMap_cons, hn, List.cons_append]) hn₀ hbs,
        firstOffset_flatMap (n :: ns') cs, Option.map_map, Option.map_map, Option.map_map]
      congr 1
      funext p
      simp only [Function.comp_apply, List.flatMap_cons, hc, List.length_append, List.length_cons]
      omega

/-- **`STRBEFORE` and `STRAFTER` cut between characters**: the byte offset of
the first occurrence in a text is the byte length of the characters before it. -/
theorem firstOffset_toUTF8 (x y : String) :
    firstOffset y.toUTF8.toList x.toUTF8.toList =
      (splitFirst y.toList x.toList).map fun p => (String.ofList p.1).utf8ByteSize := by
  rw [toList_toUTF8, toList_toUTF8, firstOffset_flatMap]
  simp only [utf8ByteSize_ofList]

/-- A first occurrence splits the text around it. -/
theorem splitFirst_eq_some {ns : List Char} :
    ∀ {cs before after : List Char}, splitFirst ns cs = some (before, after) → cs = before ++ ns ++ after
  | [], before, after, h => by
    unfold splitFirst at h
    split at h
    · rename_i hns
      cases h
      simpa using hns
    · cases h
  | c :: cs, before, after, h => by
    unfold splitFirst at h
    split at h
    · rename_i hpre
      cases h
      obtain ⟨t, ht⟩ := List.isPrefixOf_iff_prefix.1 hpre
      rw [List.nil_append, ← ht, List.drop_left]
    · obtain ⟨⟨b, a⟩, hs, heq⟩ := Option.map_eq_some_iff.1 h
      cases heq
      rw [splitFirst_eq_some hs]
      rfl

/-- The byte length of a text's first characters is a character boundary. -/
theorem isValid_of_toList_eq_append {x : String} {pre rest : List Char} (h : x.toList = pre ++ rest) :
    String.Pos.Raw.IsValid x ⟨(String.ofList pre).utf8ByteSize⟩ :=
  String.Pos.Raw.isValid_iff_exists_take_toList.2 ⟨pre.length, by rw [h, List.take_left]⟩

end Offsets

/-! ## Cutting a text -/

section Slices

variable {s : String} {a b : Nat}

theorem sliceBytes_eq_ok (ha : String.Pos.Raw.IsValid s ⟨a⟩) (hb : String.Pos.Raw.IsValid s ⟨b⟩) :
    sliceBytes s a b = .ok (String.Pos.Raw.extract s ⟨a⟩ ⟨b⟩) := by
  have hva : String.Pos.Raw.isValid s ⟨a⟩ = true := String.Pos.Raw.isValid_eq_true_iff.2 ha
  have hvb : String.Pos.Raw.isValid s ⟨b⟩ = true := String.Pos.Raw.isValid_eq_true_iff.2 hb
  simp only [sliceBytes, hva, hvb, Bool.and_self, if_true]
  rfl

/-- A cut fails only as an abnormal stop, at an offset inside a character. -/
theorem sliceBytes_eq_error {e : QueryError} (h : sliceBytes s a b = .error e) :
    e = .abort ∧ ¬ (String.Pos.Raw.IsValid s ⟨a⟩ ∧ String.Pos.Raw.IsValid s ⟨b⟩) := by
  unfold sliceBytes at h
  split at h
  · cases h
  · rename_i hvalid
    cases h
    simpa [String.Pos.Raw.isValid_eq_true_iff] using hvalid

/-- **`STRBEFORE` never stops the query.** -/
theorem strBefore_eq_ok (a b : Term) : ∃ r, Strings.strBefore a b = .ok r := by
  unfold Strings.strBefore
  split
  · exact ⟨_, rfl⟩
  · rename_i x lang y _ _
    split
    · rename_i offset hoffset
      rw [firstOffset_toUTF8] at hoffset
      obtain ⟨⟨before, after⟩, hsplit, rfl⟩ := Option.map_eq_some_iff.1 hoffset
      have hx := splitFirst_eq_some hsplit
      rw [sliceBytes_eq_ok String.Pos.Raw.isValid_zero (isValid_of_toList_eq_append (by rw [hx, List.append_assoc]))]
      exact ⟨_, rfl⟩
    · exact ⟨_, rfl⟩

/-- **`STRAFTER` never stops the query.** -/
theorem strAfter_eq_ok (a b : Term) : ∃ r, Strings.strAfter a b = .ok r := by
  unfold Strings.strAfter
  split
  · exact ⟨_, rfl⟩
  · rename_i x lang y _ _
    split
    · rename_i offset hoffset
      rw [firstOffset_toUTF8] at hoffset
      obtain ⟨⟨before, after⟩, hsplit, rfl⟩ := Option.map_eq_some_iff.1 hoffset
      have hx := splitFirst_eq_some hsplit
      -- The end of the occurrence is the byte length of the characters up to it.
      have hend : (String.ofList before).utf8ByteSize + y.utf8ByteSize =
          (String.ofList (before ++ y.toList)).utf8ByteSize := by
        rw [String.ofList_append, String.utf8ByteSize_append, String.ofList_toList]
      rw [hend, sliceBytes_eq_ok (isValid_of_toList_eq_append hx) String.Pos.Raw.isValid_rawEndPos]
      exact ⟨_, rfl⟩
    · exact ⟨_, rfl⟩

end Slices

/-! ## Cutting a language tag -/

/-- `LANGMATCHES` cuts the tag inside a character: both arguments are plain
strings, the range is not `*`, no longer than the tag in bytes, and its length
in bytes is no character boundary of the tag. -/
def CutsTag (tag range : Term) : Prop :=
  ∃ t r, plainStringArg tag = some t ∧ plainStringArg range = some r ∧ r ≠ "*" ∧
    r.utf8ByteSize ≤ t.utf8ByteSize ∧ ¬ String.Pos.Raw.IsValid t ⟨r.utf8ByteSize⟩

/-- A value is no failure. -/
theorem pure_ne_error {α : Type} (a : α) (e : QueryError) : (pure a : Except QueryError α) ≠ .error e :=
  fun h => by cases h

/-- **`LANGMATCHES` stops the query exactly when it cuts the tag inside a
character**, and then abnormally. -/
theorem langMatches_eq_error_iff (tag range : Term) (e : QueryError) :
    Strings.langMatches tag range = .error e ↔ e = .abort ∧ CutsTag tag range := by
  unfold Strings.langMatches
  cases ht : plainStringArg tag with
  | none => simp [CutsTag, ht, pure_ne_error]
  | some t =>
    cases hr : plainStringArg range with
    | none => simp [CutsTag, hr, pure_ne_error]
    | some r =>
      have hcuts : CutsTag tag range ↔ r ≠ "*" ∧ r.utf8ByteSize ≤ t.utf8ByteSize ∧
          ¬ String.Pos.Raw.IsValid t ⟨r.utf8ByteSize⟩ := by
        simp [CutsTag, ht, hr]
      rw [hcuts]
      dsimp only
      by_cases hstar : r = "*"
      · simp [hstar, pure_ne_error]
      by_cases hlong : t.utf8ByteSize < r.utf8ByteSize
      · simp [hstar, hlong, Nat.not_le.2 hlong, pure_ne_error]
      have hle : r.utf8ByteSize ≤ t.utf8ByteSize := Nat.le_of_not_lt hlong
      rw [if_neg (by simpa using hstar), if_neg hlong]
      by_cases hvalid : String.Pos.Raw.IsValid t ⟨r.utf8ByteSize⟩
      · -- Both cuts fall between characters.
        have hend : String.Pos.Raw.IsValid t ⟨t.utf8ByteSize⟩ := String.Pos.Raw.isValid_rawEndPos
        rw [sliceBytes_eq_ok String.Pos.Raw.isValid_zero hvalid, sliceBytes_eq_ok hvalid hend]
        simp only [hvalid, not_true_eq_false, and_false, iff_false]
        intro h
        cases h
      · have hcut : sliceBytes t 0 r.utf8ByteSize = .error .abort := by
          unfold sliceBytes
          rw [if_neg (by simpa [String.Pos.Raw.isValid_eq_true_iff] using hvalid)]
          rfl
        rw [hcut]
        simp only [hstar, hle, hvalid, ne_eq, not_false_eq_true, and_self, and_true]
        exact ⟨fun h => (Except.error.inj h).symm, fun h => h ▸ rfl⟩

theorem langMatches_eq_ok (tag range : Term) (h : ¬ CutsTag tag range) :
    ∃ v, Strings.langMatches tag range = .ok v := by
  cases hl : Strings.langMatches tag range with
  | ok v => exact ⟨v, rfl⟩
  | error e => exact absurd ((langMatches_eq_error_iff tag range e).1 hl).2 h

/-! ## Function calls -/

/-- A call that is not `LANGMATCHES` cutting inside a character returns. -/
theorem callFunction_run_ok (ctx : CallContext) (f : Function) (args : List Term) (n : Nat)
    (h : ¬ (f = .langMatches ∧ ∃ tag range, args = [tag, range] ∧ CutsTag tag range)) :
    ∃ r, (callFunction ctx f args).run n = .ok r := by
  unfold callFunction
  -- Every branch but four is a pure value or a draw from the counter.
  split <;> first | exact ⟨_, rfl⟩ | skip
  · next tag range =>
    obtain ⟨v, hv⟩ := langMatches_eq_ok tag range fun hc => h ⟨rfl, tag, range, rfl, hc⟩
    simp only [hv]
    exact ⟨_, rfl⟩
  · next a =>
    cases plainStringArg a <;> exact ⟨_, rfl⟩
  · next a b =>
    obtain ⟨r, hr⟩ := strBefore_eq_ok a b
    simp only [hr]
    exact ⟨_, rfl⟩
  · next a b =>
    obtain ⟨r, hr⟩ := strAfter_eq_ok a b
    simp only [hr]
    exact ⟨_, rfl⟩

theorem callFunction_run_abort (ctx : CallContext) (tag range : Term) (n : Nat) (h : CutsTag tag range) :
    (callFunction ctx .langMatches [tag, range]).run n = .error .abort := by
  have hl : Strings.langMatches tag range = .error .abort :=
    (langMatches_eq_error_iff tag range .abort).2 ⟨rfl, h⟩
  simp only [callFunction, hl]
  rfl

/-- **Function calls stop the query only inside a character.**  Every failure
of a call is an abort, and a call returns (a term or the error value) unless
it is `LANGMATCHES` on a plain tag and a plain range other than `*`, the range
no longer than the tag in bytes, whose length in bytes is no character
boundary of the tag.  The cuts of `STRBEFORE` and `STRAFTER` always fall
between characters: the byte offset of a first occurrence is the byte length
of the characters before it. -/
theorem callFunction_fails_only_inside_character (ctx : CallContext) (f : Function) (args : List Term)
    (n : Nat) :
    (∀ e, (callFunction ctx f args).run n = .error e → e = .abort) ∧
    ((∃ r, (callFunction ctx f args).run n = .ok r) ↔
      ¬ (f = .langMatches ∧ ∃ tag range t r, args = [tag, range] ∧ plainStringArg tag = some t ∧
        plainStringArg range = some r ∧ r ≠ "*" ∧ r.utf8ByteSize ≤ t.utf8ByteSize ∧
        ¬ String.Pos.Raw.IsValid t ⟨r.utf8ByteSize⟩)) ∧
    ∀ x y : String, firstOffset y.toUTF8.toList x.toUTF8.toList =
      (splitFirst y.toList x.toList).map fun p => (String.ofList p.1).utf8ByteSize := by
  have hcond : (f = .langMatches ∧ ∃ tag range t r, args = [tag, range] ∧ plainStringArg tag = some t ∧
      plainStringArg range = some r ∧ r ≠ "*" ∧ r.utf8ByteSize ≤ t.utf8ByteSize ∧
      ¬ String.Pos.Raw.IsValid t ⟨r.utf8ByteSize⟩) ↔
      (f = .langMatches ∧ ∃ tag range, args = [tag, range] ∧ CutsTag tag range) := by
    simp only [CutsTag, exists_and_left]
  rw [hcond]
  refine ⟨fun e he => ?_, ⟨fun ⟨r, hr⟩ hcut => ?_, callFunction_run_ok ctx f args n⟩, firstOffset_toUTF8⟩
  · by_cases hcut : f = .langMatches ∧ ∃ tag range, args = [tag, range] ∧ CutsTag tag range
    · obtain ⟨rfl, tag, range, rfl, hc⟩ := hcut
      rw [callFunction_run_abort ctx tag range n hc] at he
      exact (Except.error.inj he).symm
    · obtain ⟨r, hr⟩ := callFunction_run_ok ctx f args n hcut
      rw [hr] at he
      cases he
  · obtain ⟨rfl, tag, range, rfl, hc⟩ := hcut
    rw [callFunction_run_abort ctx tag range n hc] at hr
    cases hr

/-- `LANGMATCHES("é", "a")` aborts: the tag's first character takes two bytes,
and the range one. -/
theorem langMatches_aborts_inside_character :
    (callFunction {} .langMatches [.literal (.simple "é"), .literal (.simple "a")]).run 0 = .error .abort :=
  callFunction_run_abort {} _ _ 0 ⟨"é", "a", rfl, rfl, by decide, by decide, by decide +kernel⟩

end SparqlBag
