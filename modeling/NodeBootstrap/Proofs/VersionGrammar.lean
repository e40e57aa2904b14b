import NodeBootstrap.Failure
import NodeBootstrap.Proofs.Blanks
import NodeBootstrap.Proofs.Cutting
import NodeBootstrap.Proofs.Digits
import NodeBootstrap.Proofs.Results

/-!
# The grammar of versions

Each piece of a version is read exactly where the text begins with one, and the reading of the
whole is the grammar.

* `Decimal.Numeral`: the digits of a number without a leading zero;
* `Version.Identifiers`, `Version.Suffix`: what may follow the three numbers;
* `Version.Spelled`: the texts of a version;
* `Version.number_eq_ok_iff`, `Version.identifiers_eq_ok_iff`, `Version.afterNumbers_eq_ok_iff`: the
  pieces;
* **`Version.parse_eq_ok_iff`**: a text is read as a version exactly when it is a text of it.
-/

namespace NodeBootstrap

/-- The digits of a number, without a leading zero. -/
structure Decimal.Numeral (ds : List Char) (n : Nat) : Prop where
  ne_nil : ds ≠ []
  isDigit : ∀ c ∈ ds, Decimal.isDigit c = true
  noZero : ds.head? = some '0' → ds = ['0']
  value_eq : Decimal.value ds = n

namespace Version

/-! ## The grammar -/

/-- An identifier; a number among the pre-release identifiers has no leading zero. -/
structure Identifier (part : VersionPart) (cs : List Char) : Prop where
  ne_nil : cs ≠ []
  isChar : ∀ c ∈ cs, isIdentifierChar c = true
  noZero : part = .preRelease → (∀ c ∈ cs, Decimal.isDigit c = true) → cs.head? = some '0' →
    cs = ['0']

/-- Identifiers with dots between them. -/
def Identifiers (part : VersionPart) (cs : List Char) : Prop :=
  ∃ ids, ids ≠ [] ∧ cs = Chars.glue ['.'] ids ∧ ∀ id ∈ ids, Identifier part id

/-- Nothing, or a mark with identifiers after it. -/
def Marked (mark : Char) (part : VersionPart) (cs : List Char) : Prop :=
  cs = [] ∨ ∃ ids, cs = mark :: ids ∧ Identifiers part ids

/-- What may follow the three numbers. -/
def Suffix (cs : List Char) : Prop :=
  ∃ pre build, cs = pre ++ build ∧ Marked '-' .preRelease pre ∧ Marked '+' .build build

/-- A text of a version, without the letter in front. -/
def Numbered (cs : List Char) (v : Version) : Prop :=
  ∃ major minor patch suffix, cs = major ++ '.' :: (minor ++ '.' :: (patch ++ suffix)) ∧
    Decimal.Numeral major v.major.toNat ∧ Decimal.Numeral minor v.minor.toNat ∧
    Decimal.Numeral patch v.patch.toNat ∧ Suffix suffix

/-- A text of a version: the letter `v`, or not, then the three numbers with dots between them and
what may follow. -/
def Spelled (cs : List Char) (v : Version) : Prop :=
  ∃ letter body, cs = letter ++ body ∧ (letter = [] ∨ letter = ['v']) ∧ Numbered body v

/-! ## Numbers -/

section Pieces

variable {part : VersionPart} {cs rest : List Char} {v w : Version}

/-- Of a run of digits all is read, or nothing. -/
theorem number_append {ds after : List Char} (hds : ∀ c ∈ ds, Decimal.isDigit c = true)
    (hafter : ∀ c ∈ after.head?, Decimal.isDigit c = false) {n : UInt64} :
    number part (ds ++ after) = .ok (n, rest) ↔ Decimal.Numeral ds n.toNat ∧ after = rest := by
  simp only [number, Chars.takeWhile_run hds hafter, Chars.dropWhile_run hds hafter]
  split
  · refine iff_of_false ?_ fun h => h.1.ne_nil rfl
    split <;> simp
  · exact iff_of_false (by simp) fun h => by simpa using h.1.noZero rfl
  next hne hzero =>
    have hstart : ds.head? = some '0' → ds = ['0'] := by
      rcases ds with _ | ⟨c, _ | ⟨d, ds⟩⟩
      · simp
      · simp
      · intro hhead
        obtain rfl : c = '0' := by simpa using hhead
        exact absurd rfl (hzero d ds)
    split
    next hsize =>
      constructor
      · intro h
        cases h
        exact ⟨⟨hne, hds, hstart, by simp⟩, rfl⟩
      · rintro ⟨hnumeral, rfl⟩
        have hn : UInt64.ofNatLT (Decimal.value ds) hsize = n := by
          simp [hnumeral.value_eq]
        rw [hn]
    next hsize =>
      exact iff_of_false (by simp) fun h => hsize (h.1.value_eq ▸ n.toNat_lt)

theorem number_eq_ok_iff {n : UInt64} : number part cs = .ok (n, rest) ↔
    ∃ ds, cs = ds ++ rest ∧ Decimal.Numeral ds n.toNat ∧
      ∀ c ∈ rest.head?, Decimal.isDigit c = false := by
  constructor
  · intro h
    obtain ⟨ds, after, rfl, hds, hafter⟩ := Chars.exists_split Decimal.isDigit cs
    obtain ⟨hnumeral, rfl⟩ := (number_append hds hafter).mp h
    exact ⟨ds, rfl, hnumeral, hafter⟩
  · rintro ⟨ds, rfl, hnumeral, hrest⟩
    exact (number_append hnumeral.isDigit hrest).mpr ⟨hnumeral, rfl⟩

theorem dot_eq_ok_iff : dot part cs = .ok rest ↔ cs = '.' :: rest := by
  unfold dot
  split
  · simp
  next hne => exact iff_of_false (by simp) fun h => hne (List.cons.inj h).1
  · simp

/-! ## Identifiers -/

theorem hasLeadingZero_eq_false_iff {segment : List Char} : hasLeadingZero segment = false ↔
    ((∀ c ∈ segment, Decimal.isDigit c = true) → segment.head? = some '0' → segment = ['0']) := by
  rcases segment with _ | ⟨c, _ | ⟨d, ds⟩⟩
  · simp [hasLeadingZero]
  · simp [hasLeadingZero]
  · by_cases hc : c = '0'
    · subst hc
      simp [hasLeadingZero]
    · simp [hasLeadingZero, hc]

theorem checkSegment_eq_ok_iff {segment : List Char}
    (h : ∀ c ∈ segment, isIdentifierChar c = true) :
    checkSegment part segment = .ok () ↔ Identifier part segment := by
  unfold checkSegment
  split
  next hnil => exact iff_of_false (by simp) fun hid => hid.ne_nil hnil
  next hne =>
    split
    next hzero =>
      rw [Bool.and_eq_true, decide_eq_true_eq] at hzero
      refine iff_of_false (by simp) fun hid => ?_
      have hfalse := hasLeadingZero_eq_false_iff.mpr (hid.noZero hzero.1)
      rw [hzero.2] at hfalse
      cases hfalse
    next hzero =>
      refine iff_of_true rfl ⟨hne, h, fun hpart => hasLeadingZero_eq_false_iff.mp ?_⟩
      simpa [hpart] using hzero

theorem checkSegments_eq_ok_iff {segments : List (List Char)}
    (h : ∀ segment ∈ segments, ∀ c ∈ segment, isIdentifierChar c = true) :
    checkSegments part segments = .ok () ↔ ∀ segment ∈ segments, Identifier part segment := by
  induction segments with
  | nil => simp [checkSegments]
  | cons segment segments ih =>
    obtain ⟨hfirst, hrest⟩ := List.forall_mem_cons.mp h
    rw [checkSegments, Results.bind_eq_ok_iff, List.forall_mem_cons,
      ← checkSegment_eq_ok_iff hfirst, ← ih hrest]
    exact ⟨fun ⟨_, h⟩ => h, fun h => ⟨(), h⟩⟩

/-- A character of identifiers with dots between them. -/
def isInside (c : Char) : Bool := isIdentifierChar c || c == '.'

theorem isIdentifierChar_of_mem_pieces {text : List Char} (h : ∀ c ∈ text, isInside c = true) :
    ∀ id ∈ Chars.pieces '.' text, ∀ c ∈ id, isIdentifierChar c = true := by
  intro id hid c hc
  have hinside := h c (Chars.mem_of_mem_pieces hid hc)
  have hdot : c ≠ '.' := fun heq => Chars.not_mem_of_mem_pieces hid (heq ▸ hc)
  simpa [isInside, hdot] using hinside

/-- Of a run of the characters all is read, or nothing. -/
theorem identifiers_append {text after : List Char} (htext : ∀ c ∈ text, isInside c = true)
    (hafter : ∀ c ∈ after.head?, isInside c = false) :
    identifiers part (text ++ after) = .ok rest ↔
      (∀ id ∈ Chars.pieces '.' text, Identifier part id) ∧ after = rest := by
  change (checkSegments part (Chars.pieces '.' ((text ++ after).takeWhile isInside)) >>=
    fun _ => .ok ((text ++ after).dropWhile isInside)) = .ok rest ↔ _
  rw [Chars.takeWhile_run htext hafter, Chars.dropWhile_run htext hafter, Results.bind_eq_ok_iff,
    ← checkSegments_eq_ok_iff (isIdentifierChar_of_mem_pieces htext)]
  exact ⟨fun ⟨_, h, heq⟩ => ⟨h, Except.ok.inj heq⟩, fun ⟨h, heq⟩ => ⟨(), h, congrArg _ heq⟩⟩

theorem identifiers_eq_ok_iff : identifiers part cs = .ok rest ↔
    ∃ text, cs = text ++ rest ∧ Identifiers part text ∧ ∀ c ∈ rest.head?, isInside c = false := by
  constructor
  · intro h
    obtain ⟨text, after, rfl, htext, hafter⟩ := Chars.exists_split isInside cs
    obtain ⟨hids, rfl⟩ := (identifiers_append htext hafter).mp h
    exact ⟨text, rfl, ⟨_, Chars.pieces_ne_nil '.' text, (Chars.glue_pieces '.' text).symm, hids⟩,
      hafter⟩
  · rintro ⟨_, rfl, ⟨ids, hne, rfl, hids⟩, hrest⟩
    have hdot : ∀ id ∈ ids, '.' ∉ id := fun id hid hmem =>
      absurd ((hids id hid).isChar '.' hmem) (by decide)
    have htext : ∀ c ∈ Chars.glue ['.'] ids, isInside c = true := by
      intro c hc
      rcases Chars.mem_glue hc with rfl | ⟨id, hid, hmem⟩
      · decide
      · rw [isInside, (hids id hid).isChar c hmem, Bool.true_or]
    rw [identifiers_append htext hrest, Chars.pieces_glue hne hdot]
    exact ⟨hids, rfl⟩

/-! ## What may follow the numbers -/

theorem finish_eq_ok_iff : finish part v cs = .ok w ↔ cs = [] ∧ w = v := by
  cases cs with
  | nil => simp [finish, eq_comm]
  | cons c cs => simp [finish]

theorem afterPreRelease_eq_ok_iff :
    afterPreRelease part v cs = .ok w ↔ Marked '+' .build cs ∧ w = v := by
  unfold afterPreRelease
  split
  next cs =>
    simp only [Results.bind_eq_ok_iff, identifiers_eq_ok_iff, finish_eq_ok_iff]
    constructor
    · rintro ⟨_, ⟨text, rfl, hids, -⟩, rfl, rfl⟩
      exact ⟨Or.inr ⟨_, rfl, by simpa using hids⟩, rfl⟩
    · rintro ⟨hnil | ⟨ids, heq, hids⟩, rfl⟩
      · cases hnil
      · cases heq
        exact ⟨[], ⟨_, by simp, hids, by simp⟩, rfl, rfl⟩
  next hne =>
    rw [finish_eq_ok_iff]
    refine and_congr_left' ⟨Or.inl, ?_⟩
    rintro (rfl | ⟨ids, rfl, -⟩)
    · rfl
    · exact absurd rfl (hne ids)

theorem head?_of_marked {mark : Char} (h : Marked mark part cs) : ∀ c ∈ cs.head?, c = mark := by
  rcases h with rfl | ⟨ids, rfl, -⟩
  · simp
  · simp

theorem afterNumbers_eq_ok_iff : afterNumbers v cs = .ok w ↔ Suffix cs ∧ w = v := by
  unfold afterNumbers
  split
  next cs =>
    simp only [Results.bind_eq_ok_iff, identifiers_eq_ok_iff, afterPreRelease_eq_ok_iff]
    constructor
    · rintro ⟨build, ⟨text, rfl, hids, -⟩, hbuild, rfl⟩
      exact ⟨⟨'-' :: text, build, rfl, Or.inr ⟨text, rfl, hids⟩, hbuild⟩, rfl⟩
    · rintro ⟨⟨pre, build, heq, hpre, hbuild⟩, rfl⟩
      rcases hpre with rfl | ⟨ids, rfl, hids⟩
      · obtain rfl : build = '-' :: cs := heq.symm
        cases head?_of_marked hbuild '-' rfl
      · cases heq
        refine ⟨build, ⟨ids, rfl, hids, fun c hc => ?_⟩, hbuild, rfl⟩
        rw [head?_of_marked hbuild c hc]
        decide
  next hne =>
    rw [afterPreRelease_eq_ok_iff]
    refine and_congr_left' ⟨fun h => ⟨[], cs, rfl, Or.inl rfl, h⟩, ?_⟩
    rintro ⟨pre, build, rfl, rfl | ⟨ids, rfl, -⟩, hbuild⟩
    · exact hbuild
    · exact absurd rfl (hne _)

/-! ## Versions -/

theorem not_isDigit_of_suffix (h : Suffix cs) : ∀ c ∈ cs.head?, Decimal.isDigit c = false := by
  obtain ⟨pre, build, rfl, hpre | ⟨ids, rfl, -⟩, hbuild⟩ := h
  · subst hpre
    intro c hc
    rw [head?_of_marked hbuild c hc]
    decide
  · simp [Decimal.isDigit]

theorem parseBare_eq_ok_iff : parseBare cs = .ok v ↔ Numbered cs v := by
  have hdot (cs : List Char) : ∀ c ∈ ('.' :: cs).head?, Decimal.isDigit c = false := by
    rintro c ⟨⟩
    decide
  simp only [parseBare, Results.bind_eq_ok_iff, Prod.exists, number_eq_ok_iff, dot_eq_ok_iff,
    afterNumbers_eq_ok_iff]
  constructor
  · rintro ⟨_, _, ⟨major, rfl, hmajor, -⟩, _, rfl, _, _, ⟨minor, rfl, hminor, -⟩, _, rfl, _, suffix,
      ⟨patch, rfl, hpatch, -⟩, hsuffix, rfl⟩
    exact ⟨major, minor, patch, suffix, rfl, hmajor, hminor, hpatch, hsuffix⟩
  · rintro ⟨major, minor, patch, suffix, rfl, hmajor, hminor, hpatch, hsuffix⟩
    exact ⟨_, _, ⟨major, rfl, hmajor, hdot _⟩, _, rfl, _, _, ⟨minor, rfl, hminor, hdot _⟩, _, rfl,
      _, suffix, ⟨patch, rfl, hpatch, not_isDigit_of_suffix hsuffix⟩, hsuffix, rfl⟩

/-- The letter is no part of the numbers. -/
theorem dropTagLetter_of_numbered (h : Numbered cs v) : dropTagLetter cs = cs := by
  obtain ⟨major, minor, patch, suffix, rfl, hmajor, -, -, -⟩ := h
  obtain ⟨c, ds, rfl⟩ := List.exists_cons_of_ne_nil hmajor.ne_nil
  have hne : c ≠ 'v' := by
    rintro rfl
    exact absurd (hmajor.isDigit 'v' (by simp)) (by decide)
  unfold dropTagLetter
  split
  next heq => exact absurd (List.cons.inj heq).1 hne
  next => rfl

theorem numbered_dropTagLetter_iff : Numbered (dropTagLetter cs) v ↔ Spelled cs v := by
  constructor
  · intro h
    unfold dropTagLetter at h
    split at h
    next cs => exact ⟨['v'], cs, rfl, Or.inr rfl, h⟩
    next => exact ⟨[], cs, rfl, Or.inl rfl, h⟩
  · rintro ⟨_, body, rfl, rfl | rfl, hbody⟩
    · exact (dropTagLetter_of_numbered hbody).symm ▸ hbody
    · exact hbody

end Pieces

/-- **A text is read as a version exactly when it is a text of it**, the blanks around it aside. -/
theorem parse_eq_ok_iff {s : String} {v : Version} :
    parse s = .ok v ↔ Spelled (Text.trim s).toList v := by
  rw [Text.trim, String.toList_ofList, ← numbered_dropTagLetter_iff, ← parseBare_eq_ok_iff, parse]
  split
  next heq =>
    rw [heq]
    exact iff_of_false (by simp) (by simp [parseBare, number, bind, Except.bind])
  next => rfl

end Version

end NodeBootstrap
