import RecordFilter.Proofs.Json.Nesting
import RecordFilter.Proofs.Json.Numerals

/-!
# Compact texts are read back

Reading the compact text of a value undoes printing, up to two things: a number is whatever its text
is read as, and of the fields of one name in an object the last one counts. `Json.reread` is the
value with both done, and the text is read as that value in every place where it can stand, as long
as the levels allowed are no fewer than those of the value.
-/

namespace RecordFilter.Json

open RecordFilter.Filter (Breaks breaks_cons)

/-! ## What becomes of a value -/

mutual

/-- The most containers inside one another. -/
def depth : Json → Nat
  | array items => depthItems items + 1
  | object fields => depthFields fields + 1
  | _ => 0

def depthItems : List Json → Nat
  | [] => 0
  | v :: items => max (depth v) (depthItems items)

def depthFields : List (String × Json) → Nat
  | [] => 0
  | (_, v) :: fields => max (depth v) (depthFields fields)

end

/-- The value that the text of a number is read as: a number, unless it has no text of its own. -/
def Number.reread (n : Number) : Option Json := (value? 0 n.text.toList).map Prod.fst

mutual

/-- The value that the compact text is read as. -/
def reread : Json → Option Json
  | null => some null
  | bool b => some (bool b)
  | number n => n.reread
  | string s => some (string s)
  | array items => (rereadItems items).map array
  | object fields => (rereadFields fields).map fun members => object (Entries.ofList members)

def rereadItems : List Json → Option (List Json)
  | [] => some []
  | v :: items => do some ((← reread v) :: (← rereadItems items))

def rereadFields : List (String × Json) → Option (List (String × Json))
  | [] => some []
  | (n, v) :: fields => do some ((n, ← reread v) :: (← rereadFields fields))

end

variable {v : Json} {items : List Json} {fields : List (String × Json)} {levels : Nat}
  {c close : Char} {s rest acc : List Char}

theorem depth_le_depthItems (h : v ∈ items) : v.depth ≤ depthItems items := by
  induction items with
  | nil => cases h
  | cons u items ih =>
    rw [depthItems]
    rcases List.mem_cons.mp h with rfl | h
    · exact le_max_left _ _
    · exact (ih h).trans (le_max_right _ _)

theorem depthFields_eq : depthFields fields = depthItems (fields.map Prod.snd) := by
  induction fields with
  | nil => rfl
  | cons e fields ih => rw [depthFields, ih, List.map_cons, depthItems]

theorem depth_le_depthFields {e : String × Json} (h : e ∈ fields) :
    e.2.depth ≤ depthFields fields := by
  rw [depthFields_eq]
  exact depth_le_depthItems (List.mem_map_of_mem h)

theorem depthItems_le {bound : Nat} (h : ∀ v ∈ items, v.depth ≤ bound) :
    depthItems items ≤ bound := by
  induction items with
  | nil => exact Nat.zero_le _
  | cons v items ih =>
    rw [depthItems]
    exact max_le (h v (by simp)) (ih fun u hu => h u (by simp [hu]))

/-- The text of a field. -/
def fieldText (e : String × Json) : String := quote e.1 ++ ":" ++ e.2.compact

/-- The field that its text is read as. -/
def rereadField (e : String × Json) : Option (String × Json) := e.2.reread.map fun v => (e.1, v)

theorem compactItems_eq_map : compactItems items = items.map compact := by
  induction items with
  | nil => rfl
  | cons v items ih => rw [compactItems, ih, List.map_cons]

theorem compactFields_eq_map : compactFields fields = fields.map fieldText := by
  induction fields with
  | nil => rfl
  | cons e fields ih => rw [compactFields, ih, List.map_cons, fieldText]

theorem rereadItems_eq_mapM : rereadItems items = items.mapM reread := by
  induction items with
  | nil => rfl
  | cons v items ih =>
    rw [rereadItems, ih, List.mapM_cons]
    rfl

theorem rereadFields_eq_mapM : rereadFields fields = fields.mapM rereadField := by
  induction fields with
  | nil => rfl
  | cons e fields ih =>
    rw [rereadFields, ih, List.mapM_cons, rereadField]
    cases e.2.reread <;> rfl

/-! ## Strings -/

theorem hexDigit?_digitChar : ∀ n < 16, hexDigit? (Nat.digitChar n) = some n := by decide

theorem stringBody?_escaped (h : escaped? s = some (c, rest)) :
    stringBody? acc ('\\' :: s) = stringBody? (c :: acc) rest := by
  rw [stringBody?]
  split
  · next c' rest' h' =>
    rw [h] at h'
    cases h'
    rfl
  · next h' =>
    rw [h] at h'
    cases h'

theorem stringBody?_plain (hquote : c ≠ '"') (hslash : c ≠ '\\') (hc : ¬ c.toNat < 0x20) :
    stringBody? acc (c :: s) = stringBody? (c :: acc) s := by
  rw [stringBody?]
  · rw [if_neg hc]
  · exact hquote
  · exact hslash

theorem escaped?_control (hc : c.toNat < 0x20) :
    escaped? ('u' :: '0' :: '0' :: Nat.digitChar (c.toNat / 16) :: Nat.digitChar (c.toNat % 16) ::
      s) = some (c, s) := by
  have hzero : hexDigit? '0' = some 0 := by decide
  have hhigh := hexDigit?_digitChar (c.toNat / 16) (by omega)
  have hlow := hexDigit?_digitChar (c.toNat % 16) (by omega)
  have hunit : codeUnit? ('0' :: '0' :: Nat.digitChar (c.toNat / 16) ::
      Nat.digitChar (c.toNat % 16) :: s) = some (c.toNat, s) := by
    simp only [codeUnit?, hzero, hhigh, hlow, Option.bind_eq_bind, Option.bind_some]
    congr 2
    omega
  simp only [escaped?, hunit]
  rw [if_neg (by omega), if_neg (by omega), Char.ofNat_toNat]

/-- A character is read from its text, escaped or not. -/
theorem stringBody?_escapeChar (c : Char) (acc s : List Char) :
    stringBody? acc (escapeChar c ++ s) = stringBody? (c :: acc) s := by
  unfold escapeChar
  split
  case h_8 hquote hslash _ _ _ _ _ =>
    split
    · next hc => exact stringBody?_escaped (escaped?_control hc)
    · next hc => exact stringBody?_plain hquote hslash hc
  all_goals exact stringBody?_escaped rfl

theorem stringBody?_flatMap (t : List Char) (acc rest : List Char) :
    stringBody? acc (t.flatMap escapeChar ++ '"' :: rest) =
      some (String.ofList (acc.reverse ++ t), rest) := by
  induction t generalizing acc with
  | nil => simp [stringBody?]
  | cons c t ih =>
    rw [List.flatMap_cons, List.append_assoc, stringBody?_escapeChar, ih]
    simp

theorem toList_quote (t : String) :
    (quote t).toList = '"' :: (t.toList.flatMap escapeChar ++ ['"']) := by
  simp [quote]

theorem stringBody?_quote (t : String) (rest : List Char) :
    stringBody? [] (t.toList.flatMap escapeChar ++ '"' :: rest) = some (t, rest) := by
  simpa using stringBody?_flatMap t.toList [] rest

/-! ## Texts between brackets -/

section Delimited

variable {α β : Type} {item : Reader α} {text : β → List Char} {result : β → Option α}

theorem skipSpace_cons (hc : isSpace c = false) : skipSpace (c :: s) = c :: s :=
  (breaks_cons.mpr hc).dropWhile_eq_self

theorem intercalate_cons (t : List Char) (ts : List (List Char)) :
    [','].intercalate (t :: ts) = t ++ ts.flatMap (',' :: ·) := by
  induction ts generalizing t with
  | nil => simp
  | cons u ts ih => simp [List.intercalate_cons_cons, ih]

/-- The character that ends a container is no space, no comma and nothing of a numeral. -/
structure Closes (close : Char) : Prop where
  isSpace_eq : isSpace close = false
  isNumeralChar_eq : isNumeralChar close = false
  ne_comma : close ≠ ','

theorem delimited_texts (hclose : Closes close) (b : β) (l : List β)
    (hitem : ∀ x ∈ b :: l, ∀ rest, Breaks isNumeralChar rest →
      item (text x ++ rest) = (result x).map fun a => (a, rest)) (acc : List α)
    (rest : List Char) :
    delimited item close acc (text b ++ (l.flatMap (fun x => ',' :: text x) ++ close :: rest)) =
      ((b :: l).mapM result).map fun as => (acc.reverse ++ as, rest) := by
  induction l generalizing b acc with
  | nil =>
    have hb := hitem b (by simp) (close :: rest) (breaks_cons.mpr hclose.isNumeralChar_eq)
    rw [delimited, List.flatMap_nil, List.nil_append, hb, List.mapM_cons]
    cases result b with
    | none => rfl
    | some a => simp [skipSpace_cons hclose.isSpace_eq]
  | cons x l ih =>
    have hb := hitem b (by simp) (',' :: (text x ++ (l.flatMap (fun x => ',' :: text x) ++
      close :: rest))) (breaks_cons.mpr (by decide))
    have hrest := ih x (fun y hy => hitem y (List.mem_cons_of_mem _ hy))
    rw [delimited, List.flatMap_cons, List.cons_append, List.cons_append, List.append_assoc, hb,
      List.mapM_cons]
    cases result b with
    | none => rfl
    | some a =>
      have hcomma : skipSpace (',' :: (text x ++ (l.flatMap (fun x => ',' :: text x) ++
          close :: rest))) = ',' :: (text x ++ (l.flatMap (fun x => ',' :: text x) ++
          close :: rest)) := skipSpace_cons (by decide)
      simp only [Option.map_some, hcomma]
      rw [if_neg hclose.ne_comma.symm, if_pos, hrest]
      · cases (x :: l).mapM result <;> simp
      · simp only [List.length_append, List.length_cons, true_and]
        omega

/-- Items are read one after the other from their texts with commas between them. -/
theorem contents_texts (hclose : Closes close) (l : List β)
    (hitem : ∀ x ∈ l, ∀ rest, Breaks isNumeralChar rest →
      item (text x ++ rest) = (result x).map fun a => (a, rest))
    (hhead : ∀ x ∈ l, ∃ c s, text x = c :: s ∧ isSpace c = false ∧ c ≠ close)
    (rest : List Char) :
    contents item close ([','].intercalate (l.map text) ++ close :: rest) =
      (l.mapM result).map fun as => (as, rest) := by
  unfold contents
  cases l with
  | nil => simp [skipSpace_cons hclose.isSpace_eq]
  | cons b l =>
    obtain ⟨c, s, htext, hspace, hne⟩ := hhead b (by simp)
    have hdelimited := delimited_texts hclose b l hitem [] rest
    rw [List.map_cons, intercalate_cons, List.flatMap_map, List.append_assoc]
    rw [htext, List.cons_append] at hdelimited ⊢
    rw [skipSpace_cons hspace]
    dsimp only
    rw [if_neg hne, hdelimited]
    simp

end Delimited

/-! ## Values -/

theorem Numeral.chars_head (n : Numeral) :
    ∃ c s, n.chars = c :: s ∧ isSpace c = false ∧ c ≠ ']' ∧ c ≠ '\x7d' := by
  obtain ⟨c, whole, hwhole⟩ := List.exists_cons_of_ne_nil n.isDigits_whole.ne_nil
  have hc : c.isDigit := n.isDigits_whole.isDigit c (by simp [hwhole])
  unfold chars
  cases n.negative with
  | true => exact ⟨'-', _, rfl, by decide, by decide, by decide⟩
  | false =>
    refine ⟨c, whole ++ fractionChars n.fraction ++ exponentChars n.exponent, ?_, ?_, ?_, ?_⟩
    · simp [Binary64.signed, hwhole]
    · exact isSpace_of_isDigit hc
    · rintro rfl
      exact absurd hc (by decide)
    · rintro rfl
      exact absurd hc (by decide)

/-- No compact text starts with a space, or as the end of a container. -/
theorem compact_head (v : Json) :
    ∃ c s, v.compact.toList = c :: s ∧ isSpace c = false ∧ c ≠ ']' ∧ c ≠ '\x7d' := by
  cases v with
  | null => exact ⟨'n', _, rfl, by decide, by decide, by decide⟩
  | bool b =>
    cases b
    · exact ⟨'f', _, rfl, by decide, by decide, by decide⟩
    · exact ⟨'t', _, rfl, by decide, by decide, by decide⟩
  | number n =>
    rw [compact]
    rcases n.text_cases with hnull | ⟨m, hm⟩
    · exact ⟨'n', _, hnull, by decide, by decide, by decide⟩
    · rw [hm]
      exact m.chars_head
  | string t =>
    rw [compact, toList_quote]
    exact ⟨'"', _, rfl, by decide, by decide, by decide⟩
  | array items =>
    rw [compact]
    exact ⟨'[', _, by simp; rfl, by decide, by decide, by decide⟩
  | object fields =>
    rw [compact]
    exact ⟨'\x7b', _, by simp; rfl, by decide, by decide, by decide⟩

theorem toList_array : (array items).compact.toList =
    '[' :: ([','].intercalate (items.map fun v => v.compact.toList) ++ [']']) := by
  simp [compact, compactItems_eq_map, String.toList_intercalate, Function.comp_def]

theorem toList_object : (object fields).compact.toList =
    '\x7b' :: ([','].intercalate (fields.map fun e => (fieldText e).toList) ++ ['\x7d']) := by
  simp [compact, compactFields_eq_map, String.toList_intercalate, Function.comp_def]

theorem value?_null (levels : Nat) (rest : List Char) :
    value? levels ("null".toList ++ rest) = some (null, rest) := by
  simp [value?, skipSpace, isSpace]

theorem value?_number (n : Number) (levels : Nat) (h : Breaks isNumeralChar rest) :
    value? levels (n.text.toList ++ rest) = n.reread.map fun v => (v, rest) := by
  rcases n.text_cases with hnull | ⟨m, hm⟩
  · have hreread : n.reread = some null := by
      have := value?_null 0 []
      rw [List.append_nil] at this
      rw [Number.reread, hnull, this]
      rfl
    rw [hnull, value?_null, hreread]
    rfl
  · have hreread : n.reread = m.number?.map number := by
      have hvalue : value? 0 (m.chars ++ []) = m.number?.map fun x => (number x, []) :=
        value?_numeral m Filter.breaks_nil
      rw [List.append_nil] at hvalue
      rw [Number.reread, hm, hvalue, Option.map_map]
      rfl
    rw [hm, value?_numeral m h, hreread, Option.map_map]
    rfl

theorem value?_array (levels : Nat) (s : List Char) :
    value? (levels + 1) ('[' :: s) =
      (contents (value? levels) ']' s).map fun (items, s) => (array items, s) := by
  rw [value?, skipSpace_cons (by decide)]
  rfl

theorem value?_object (levels : Nat) (s : List Char) :
    value? (levels + 1) ('\x7b' :: s) =
      (contents (member? (value? levels)) '\x7d' s).map fun (members, s) =>
        (object (Entries.ofList members), s) := by
  rw [value?, skipSpace_cons (by decide)]
  rfl

theorem value?_string (levels : Nat) (s : List Char) :
    value? levels ('"' :: s) = (stringBody? [] s).map fun (t, s) => (string t, s) := by
  rw [value?, skipSpace_cons (by decide)]
  rfl

theorem member?_fieldText {value : Reader Json} (e : String × Json)
    (hvalue : value (e.2.compact.toList ++ rest) = e.2.reread.map fun v => (v, rest)) :
    member? value ((fieldText e).toList ++ rest) = (rereadField e).map fun e => (e, rest) := by
  have hquote : (fieldText e).toList ++ rest =
      '"' :: (e.1.toList.flatMap escapeChar ++ '"' :: ':' :: (e.2.compact.toList ++ rest)) := by
    simp [fieldText, toList_quote]
  have hstart (s : List Char) : skipSpace ('"' :: s) = '"' :: s := skipSpace_cons (by decide)
  have hcolon (s : List Char) : skipSpace (':' :: s) = ':' :: s := skipSpace_cons (by decide)
  simp only [hquote, member?, hstart, stringBody?_quote, hcolon, hvalue, rereadField]
  cases e.2.reread <;> rfl

/-- The compact text of a value is read as that value with its numbers read again, if it goes no
deeper than the levels that are left, and nothing follows that would go on a numeral. -/
theorem value?_compact (v : Json) (levels : Nat) (rest : List Char) (hlevels : v.depth ≤ levels)
    (hrest : Breaks isNumeralChar rest) :
    value? levels (v.compact.toList ++ rest) = v.reread.map fun v => (v, rest) := by
  induction v using induct_inner generalizing levels rest with
  | null => exact value?_null levels rest
  | bool b => cases b <;> simp [value?, skipSpace, isSpace, compact, reread]
  | number n =>
    rw [compact, reread]
    exact value?_number n levels hrest
  | string t =>
    rw [compact, reread, toList_quote, List.cons_append, List.append_assoc, value?_string,
      List.singleton_append, stringBody?_quote]
    rfl
  | array items ih =>
    rw [depth] at hlevels
    obtain ⟨levels, rfl⟩ : ∃ n, levels = n + 1 := ⟨levels - 1, by omega⟩
    have hread : ∀ v ∈ items, ∀ rest, Breaks isNumeralChar rest →
        value? levels (v.compact.toList ++ rest) = v.reread.map fun v => (v, rest) := by
      intro v hv rest hrest
      exact ih v hv levels rest ((depth_le_depthItems hv).trans (by omega)) hrest
    have hhead : ∀ v ∈ items, ∃ c s, v.compact.toList = c :: s ∧ isSpace c = false ∧ c ≠ ']' := by
      intro v _
      obtain ⟨c, s, htext, hspace, hne, -⟩ := v.compact_head
      exact ⟨c, s, htext, hspace, hne⟩
    have hcontents := contents_texts ⟨by decide, by decide, by decide⟩ items hread hhead rest
    rw [toList_array, List.cons_append, List.append_assoc, List.singleton_append, value?_array,
      hcontents, reread, rereadItems_eq_mapM]
    cases items.mapM reread <;> rfl
  | object fields ih =>
    rw [depth] at hlevels
    obtain ⟨levels, rfl⟩ : ∃ n, levels = n + 1 := ⟨levels - 1, by omega⟩
    have hread : ∀ e ∈ fields, ∀ rest, Breaks isNumeralChar rest →
        member? (value? levels) ((fieldText e).toList ++ rest) =
          (rereadField e).map fun e => (e, rest) := by
      intro e he rest hrest
      have hdepth : e.2.depth ≤ levels := (depth_le_depthFields he).trans (by omega)
      exact member?_fieldText e (ih e he levels rest hdepth hrest)
    have hhead : ∀ e ∈ fields, ∃ c s, (fieldText e).toList = c :: s ∧ isSpace c = false ∧
        c ≠ '\x7d' := by
      intro e _
      exact ⟨'"', _, by simp [fieldText, toList_quote]; rfl, by decide, by decide⟩
    have hcontents := contents_texts ⟨by decide, by decide, by decide⟩ fields hread hhead rest
    rw [toList_object, List.cons_append, List.append_assoc, List.singleton_append, value?_object,
      hcontents, reread, rereadFields_eq_mapM]
    cases fields.mapM rereadField <;> rfl

/-- Reading undoes printing, up to numbers and names that occur twice. -/
theorem read?_compact (h : v.depth ≤ maxDepth) : read? v.compact = v.reread := by
  have hvalue := value?_compact v maxDepth [] h Filter.breaks_nil
  rw [List.append_nil] at hvalue
  rw [read?, hvalue]
  cases v.reread <;> simp [skipSpace]

/-! ## Compact texts stay on one line -/

/-- The characters from the space on, all but the control characters. -/
def IsPrintable (s : List Char) : Prop := ∀ c ∈ s, ' ' ≤ c

theorem isPrintable_append {t : List Char} :
    IsPrintable (s ++ t) ↔ IsPrintable s ∧ IsPrintable t := List.forall_mem_append

theorem isPrintable_cons : IsPrintable (c :: s) ↔ ' ' ≤ c ∧ IsPrintable s := List.forall_mem_cons

theorem isPrintable_of_isDigit (h : ∀ c ∈ s, c.isDigit) : IsPrintable s := by
  intro c hc
  have hdigit := h c hc
  simp only [Char.isDigit, Bool.and_eq_true, decide_eq_true_eq] at hdigit
  exact le_trans (by decide : (' ' : Char) ≤ '0') hdigit.1

theorem isPrintable_escapeChar (c : Char) : IsPrintable (escapeChar c) := by
  unfold escapeChar
  split
  case h_8 =>
    split
    · next hc =>
      have hhex : ∀ n < 16, ' ' ≤ Nat.digitChar n := by decide
      have hhigh := hhex (c.toNat / 16) (by omega)
      have hlow := hhex (c.toNat % 16) (by omega)
      have hstart : IsPrintable ['\\', 'u', '0', '0'] := by simp [IsPrintable]
      exact isPrintable_append.mpr ⟨hstart, by simp [IsPrintable, hhigh, hlow]⟩
    · next hc =>
      intro d hd
      obtain rfl := List.mem_singleton.mp hd
      exact Nat.le_of_not_lt hc
  all_goals simp [IsPrintable]

theorem isPrintable_quote (t : String) : IsPrintable (quote t).toList := by
  have hbody : IsPrintable (t.toList.flatMap escapeChar) := by
    intro c hc
    obtain ⟨d, -, hd⟩ := List.mem_flatMap.mp hc
    exact isPrintable_escapeChar d c hd
  rw [toList_quote, isPrintable_cons, isPrintable_append, isPrintable_cons]
  exact ⟨by decide, hbody, by decide, by simp [IsPrintable]⟩

theorem Numeral.isPrintable_chars (n : Numeral) : IsPrintable n.chars := by
  have hwhole := isPrintable_of_isDigit n.isDigits_whole.isDigit
  have hfraction : IsPrintable (fractionChars n.fraction) := by
    cases hf : n.fraction with
    | none => simp [fractionChars, IsPrintable]
    | some ds =>
      have hds := isPrintable_of_isDigit (n.isDigits_fraction ds hf).isDigit
      exact isPrintable_cons.mpr ⟨by decide, hds⟩
  have hexponent : IsPrintable (exponentChars n.exponent) := by
    cases he : n.exponent with
    | none => simp [exponentChars, IsPrintable]
    | some e =>
      have hds := isPrintable_of_isDigit (n.isDigits_exponent e he).isDigit
      refine isPrintable_cons.mpr ⟨by decide, isPrintable_cons.mpr ⟨?_, hds⟩⟩
      cases e.negative <;> decide
  have hunsigned := isPrintable_append.mpr ⟨isPrintable_append.mpr ⟨hwhole, hfraction⟩, hexponent⟩
  unfold chars
  cases n.negative with
  | true => exact isPrintable_cons.mpr ⟨by decide, hunsigned⟩
  | false => exact hunsigned

theorem Number.isPrintable_text (n : Number) : IsPrintable n.text.toList := by
  rcases n.text_cases with hnull | ⟨m, hm⟩
  · rw [hnull]
    simp [IsPrintable]
  · rw [hm]
    exact m.isPrintable_chars

theorem isPrintable_intercalate {ts : List (List Char)} (h : ∀ t ∈ ts, IsPrintable t) :
    IsPrintable ([','].intercalate ts) := by
  cases ts with
  | nil => simp [IsPrintable]
  | cons t ts =>
    rw [intercalate_cons, isPrintable_append]
    refine ⟨h t (by simp), fun c hc => ?_⟩
    obtain ⟨u, hu, hmem⟩ := List.mem_flatMap.mp hc
    exact isPrintable_cons.mpr ⟨by decide, h u (by simp [hu])⟩ c hmem

/-- No control character is in a compact text, so no line end either. -/
theorem isPrintable_compact (v : Json) : IsPrintable v.compact.toList := by
  induction v using induct_inner with
  | null => simp [IsPrintable, compact]
  | bool b => cases b <;> simp [IsPrintable, compact]
  | number n =>
    rw [compact]
    exact n.isPrintable_text
  | string t =>
    rw [compact]
    exact isPrintable_quote t
  | array items ih =>
    have hitems : IsPrintable ([','].intercalate (items.map fun v => v.compact.toList)) :=
      isPrintable_intercalate (by simpa using ih)
    rw [toList_array, isPrintable_cons, isPrintable_append]
    exact ⟨by decide, hitems, by simp [IsPrintable]⟩
  | object fields ih =>
    have hfields : IsPrintable ([','].intercalate (fields.map fun e => (fieldText e).toList)) := by
      refine isPrintable_intercalate fun t ht => ?_
      obtain ⟨e, he, rfl⟩ := List.mem_map.mp ht
      rw [fieldText, String.toList_append, String.toList_append, isPrintable_append,
        isPrintable_append]
      exact ⟨⟨isPrintable_quote e.1, by simp [IsPrintable]⟩, ih e he⟩
    rw [toList_object, isPrintable_cons, isPrintable_append]
    exact ⟨by decide, hfields, by simp [IsPrintable]⟩

end RecordFilter.Json
