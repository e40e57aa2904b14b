import NodeBootstrap.Cluster.ConfigMap
import NodeBootstrap.Command.Tools
import NodeBootstrap.Proofs.ReadQuoted

/-!
# Stored objects

Whatever a text is, there is an object that holds it under the name that the configuration of a
cluster is kept under.

* `Json.writeText`, `Json.writeRecord`: written texts and records;
* `Json.Reads`: a written value is read back, whatever follows it;
* **`ConfigMap.ofData_written`**: the written object holds the text.
-/

namespace NodeBootstrap

namespace Json

/-! ## Texts -/

/-- What stands for a character between quotes. -/
def escape (c : Char) : List Char :=
  if c = '"' ∨ c = '\\' then ['\\', c]
  else if c.toNat < 0x20 then '\\' :: 'u' :: Hex.upperDigits 4 c.toNat
  else [c]

/-- A text between quotes. -/
def writeText (s : String) : List Char := '"' :: s.toList.flatMap escape ++ ['"']

theorem stringBody_number {c : Char} (h : c.toNat < 0x20) (cs : List Char) :
    stringBody ('\\' :: 'u' :: (Hex.upperDigits 4 c.toNat ++ cs)) =
      (stringBody cs).map fun (ps, r) => (.char c :: ps, r) := by
  have hread := Hex.read?_upperDigits 4 c.toNat
  have hpiece : pieceOf c.toNat = .char c := by
    rw [pieceOf, if_neg (by omega), Char.ofNat_toNat]
  rw [Nat.mod_eq_of_lt (Nat.lt_trans h (by decide))] at hread
  simp only [Hex.upperDigits, List.nil_append, List.cons_append] at hread ⊢
  rw [stringBody, hread]
  simp only [hpiece]

/-- A character is read back from what stands for it. -/
theorem stringBody_escape (c : Char) (cs : List Char) :
    stringBody (escape c ++ cs) = (stringBody cs).map fun (ps, r) => (.char c :: ps, r) := by
  unfold escape
  split_ifs with hsign hcontrol
  · rcases hsign with rfl | rfl
    · simp [stringBody, escapeChar?]
    · simp [stringBody, escapeChar?]
  · exact stringBody_number hcontrol cs
  · rw [not_or] at hsign
    simp [stringBody, hsign, hcontrol]

theorem stringBody_escapes (cs r : List Char) :
    stringBody (cs.flatMap escape ++ '"' :: r) = some (cs.map .char, r) := by
  induction cs with
  | nil => simp [stringBody]
  | cons c cs ih =>
    rw [List.flatMap_cons, List.append_assoc, stringBody_escape, ih]
    rfl

theorem chars?_map (cs : List Char) : chars? (cs.map .char) = some cs := by
  induction cs with
  | nil => rfl
  | cons c cs ih => simp [chars?, ih]

/-! ## Values -/

/-- A written value is read back, whatever follows it, with so much fuel or more. -/
def Reads (bound : Nat) (written : List Char) (d : Data) : Prop :=
  ∀ fuel r, bound ≤ fuel → value fuel (written ++ r) = some (d, r)

/-- A record of written values. -/
def writeRecord (fs : List (String × List Char)) : List Char :=
  '\x7b' :: Chars.glue [','] (fs.map fun f => writeText f.1 ++ ':' :: f.2) ++ ['\x7d']

theorem Reads.mono {bound bound' : Nat} {written : List Char} {d : Data} (h : Reads bound written d)
    (hbound : bound ≤ bound') : Reads bound' written d :=
  fun fuel r hfuel => h fuel r (hbound.trans hfuel)

theorem skip_cons {c : Char} (h : isSpace c = false) (cs : List Char) : skip (c :: cs) = c :: cs :=
  List.dropWhile_cons_of_neg (by simp [h])

theorem reads_text (s : String) : Reads 1 (writeText s) (.text s) := by
  intro fuel r hfuel
  obtain ⟨fuel, rfl⟩ : ∃ k, fuel = k + 1 := ⟨fuel - 1, by omega⟩
  have hread := stringBody_escapes s.toList r
  simp [value, writeText, skip_cons, isSpace, hread, textOf, chars?_map]

section Records

variable {bound : Nat} {k : String} {v : List Char} {d : Data}

theorem fields_last (h : Reads bound v d) {fuel : Nat} (hfuel : bound ≤ fuel) (r : List Char) :
    fields (fuel + 1) (writeText k ++ ':' :: v ++ '\x7d' :: r) =
      some ([(k.toList.map .char, d)], r) := by
  have hname := stringBody_escapes k.toList (':' :: (v ++ '\x7d' :: r))
  have hvalue := h fuel ('\x7d' :: r) hfuel
  simp [fields, writeText, skip_cons, isSpace, hname, hvalue]

theorem fields_cons (h : Reads bound v d) {fuel : Nat} (hfuel : bound ≤ fuel) {r r' : List Char}
    {fs : List (List Piece × Data)} (hmore : fields fuel r = some (fs, r')) :
    fields (fuel + 1) (writeText k ++ ':' :: v ++ ',' :: r) =
      some ((k.toList.map .char, d) :: fs, r') := by
  have hname := stringBody_escapes k.toList (':' :: (v ++ ',' :: r))
  have hvalue := h fuel (',' :: r) hfuel
  simp [fields, writeText, skip_cons, isSpace, hname, hvalue, hmore]

/-- The fields of a record are read up to its closing brace. -/
theorem fields_glue {fs : List (String × List Char × Data)} (hne : fs ≠ [])
    (h : ∀ f ∈ fs, Reads bound f.2.1 f.2.2) {fuel : Nat} (hfuel : bound + fs.length ≤ fuel)
    (r : List Char) :
    fields fuel (Chars.glue [','] (fs.map fun f => writeText f.1 ++ ':' :: f.2.1) ++ '\x7d' :: r) =
      some (fs.map fun f => (f.1.toList.map .char, f.2.2), r) := by
  induction fs generalizing fuel with
  | nil => exact absurd rfl hne
  | cons f fs ih =>
    obtain ⟨hf, hfs⟩ := List.forall_mem_cons.mp h
    rw [List.length_cons] at hfuel
    obtain ⟨fuel, rfl⟩ : ∃ k, fuel = k + 1 := ⟨fuel - 1, by omega⟩
    rcases fs with _ | ⟨g, fs⟩
    · exact fields_last hf (by omega) r
    · have hmore := ih (List.cons_ne_nil g fs) hfs (show _ ≤ fuel by omega)
      have hread := fields_cons (k := f.1) hf (show bound ≤ fuel by omega) hmore
      rw [List.map_cons, List.map_cons, Chars.glue]
      rw [List.map_cons] at hread
      simpa using hread

theorem mapM_map {α β γ : Type} {f : β → Option γ} {g : α → β} {h : α → γ}
    (heach : ∀ a, f (g a) = some (h a)) (as : List α) : (as.map g).mapM f = some (as.map h) := by
  induction as with
  | nil => rfl
  | cons a as ih => simp [heach, ih]

theorem recordOf_map (fs : List (String × List Char × Data)) :
    recordOf (fs.map fun f => (f.1.toList.map .char, f.2.2)) =
      .record (fs.map fun f => (f.1, f.2.2)) := by
  rw [recordOf, mapM_map (h := fun f => (f.1, f.2.2)) fun f => by simp [chars?_map]]

/-- A record of written values is read back. -/
theorem reads_record (fs : List (String × List Char × Data)) (hne : fs ≠ [])
    (h : ∀ f ∈ fs, Reads bound f.2.1 f.2.2) :
    Reads (bound + fs.length + 1) (writeRecord (fs.map fun f => (f.1, f.2.1)))
      (.record (fs.map fun f => (f.1, f.2.2))) := by
  intro fuel r hfuel
  obtain ⟨fuel, rfl⟩ : ∃ k, fuel = k + 1 := ⟨fuel - 1, by omega⟩
  have hread := fields_glue hne h (show _ ≤ fuel by omega) r
  obtain ⟨cs, hcs⟩ : ∃ cs, Chars.glue [','] (fs.map fun f => writeText f.1 ++ ':' :: f.2.1) =
      '"' :: cs := by
    obtain ⟨f, fs, rfl⟩ := List.exists_cons_of_ne_nil hne
    rcases fs with _ | ⟨g, fs⟩
    · exact ⟨_, rfl⟩
    · exact ⟨_, rfl⟩
  rw [hcs] at hread
  have hwritten : writeRecord (fs.map fun f => (f.1, f.2.1)) ++ r =
      '\x7b' :: '"' :: (cs ++ '\x7d' :: r) := by
    simp only [writeRecord, List.map_map]
    change '\x7b' :: Chars.glue [','] (fs.map fun f => writeText f.1 ++ ':' :: f.2.1) ++
      ['\x7d'] ++ r = _
    rw [hcs]
    simp
  rw [List.cons_append] at hread
  rw [hwritten]
  simp [value, skip_cons, isSpace, hread, recordOf_map]

end Records

/-- A whole text that is a written value is read back. -/
theorem parse_of_reads {bound : Nat} {written : List Char} {d : Data} (h : Reads bound written d)
    (hbound : bound ≤ written.length + 1) : parse (String.ofList written) = .ok d := by
  have hread := h (written.length + 1) [] hbound
  rw [List.append_nil] at hread
  rw [parse, String.toList_ofList, hread]
  rfl

end Json

namespace ConfigMap

open Json

/-- A stored object with one text. -/
def writeObject (name text : String) : List Char :=
  writeRecord [("apiVersion", writeText "v1"), ("kind", writeText "ConfigMap"),
    ("data", writeRecord [(name, writeText text)])]

/-- **The written object holds the text.** -/
theorem ofData_written (name text : String) :
    (Json.parse (String.ofList (writeObject name text))).bind ofData = .ok ⟨[(name, text)]⟩ := by
  have hentry : Reads 3 (writeRecord [(name, writeText text)]) (.record [(name, .text text)]) :=
    reads_record [(name, writeText text, .text text)] (by simp) (by simp [reads_text])
  have htext (s : String) : Reads 3 (writeText s) (.text s) := (reads_text s).mono (by decide)
  have hobject : Reads 7 (writeObject name text) (.record [("apiVersion", .text "v1"),
      ("kind", .text "ConfigMap"), ("data", .record [(name, .text text)])]) :=
    reads_record [("apiVersion", writeText "v1", .text "v1"),
      ("kind", writeText "ConfigMap", .text "ConfigMap"),
      ("data", writeRecord [(name, writeText text)], .record [(name, .text text)])]
      (by simp) (by simp [htext, hentry])
  have hlength : 7 ≤ (writeObject name text).length + 1 := by
    simp [writeObject, writeRecord, writeText, Chars.glue]
    omega
  rw [parse_of_reads hobject hlength]
  rfl

end ConfigMap

end NodeBootstrap
