import NodeBootstrap.Proofs.Leaves
import NodeBootstrap.Proofs.ReadBlock
import NodeBootstrap.Proofs.Readable

/-!
# Reading written documents back

What is written of a tree is read back, and what follows it is left to be read.

* `Yaml.node`, `Yaml.value`: a tree as it stands in a document, and what it stands for;
* `Yaml.leaf_text`: a text is read back however it is written;
* `Yaml.ReadsBack`, `Yaml.readItems_succ`, `Yaml.readFields_succ`: one item and one field;
* `Yaml.readItems_eq`, `Yaml.readFields_eq`: the items of a list and the fields of a record;
* **`Yaml.readsBack_of_tidy`**: whole trees;
* **`Yaml.parse_write`**: whole documents, with their names looked up.
-/

namespace NodeBootstrap

namespace Yaml

open ReadScalar Scalar

/-! ## Texts -/

section Texts

variable {least : Nat} {t : List Char}

/-- A text without an end of its last line is given one. -/
theorem endLine_eq_concat {cs : List Char} (h : ∀ c ∈ cs.getLast?, isBreak c = false) :
    endLine cs = cs ++ ['\n'] := by
  rcases hlast : cs.getLast? with _ | c
  · rw [List.getLast?_eq_none_iff] at hlast
    rw [hlast]
    rfl
  · rw [endLine_of_getLast? hlast, h c hlast]
    rfl

/-- A text between quotes is a part of its own. -/
theorem leaf_quoted {quote : Char} {r cs : List Char} (hquote : quote = '"' ∨ quote = '\'')
    (h : quoted (quote :: r ++ [quote] ++ '\n' :: t) = some (cs, '\n' :: t)) :
    Leaf least (endLine (quote :: r ++ [quote])) t (.scalar none (String.ofList cs)) := by
  have hmark : quote ∈ ['"', '\'', '[', '\x7b'] := by
    rcases hquote with rfl | rfl <;> simp
  have hbreak : isBreak quote = false := by
    rcases hquote with rfl | rfl <;> decide
  have hend : endLine (quote :: (r ++ [quote])) = quote :: (r ++ [quote]) ++ ['\n'] :=
    endLine_eq_concat (by
      rw [← List.cons_append, List.getLast?_concat]
      rintro c ⟨⟩
      exact hbreak)
  simp only [List.cons_append, List.append_assoc, List.nil_append] at h ⊢
  rw [hend]
  refine leaf_flat hmark ?_
  rcases hquote with rfl | rfl
  · simp [readFlat, h]
  · simp [readFlat, h]

/-- **A written text is a part of its own**, however it is written. -/
theorem leaf_text (hleast : 0 < least) (ht : Follows least t) (s : String) :
    Leaf least (endLine (Scalar.write (least + 1) s.toList)) t (.scalar none s) := by
  generalize hcs : s.toList = cs
  obtain rfl : s = String.ofList cs := by rw [← hcs, String.ofList_toList]
  unfold Scalar.write style
  split_ifs with hmany hliteral hplain hsingle
  · have hne : cs ≠ [] := by
      rintro rfl
      simp at hmany
    have hread := block_writeLiteral hleast ht hliteral hne
    dsimp only
    rw [endLine_writeLiteral hne] at hread ⊢
    exact leaf_block hread
  · exact leaf_quoted (Or.inl rfl) (quoted_writeDouble cs _)
  · rw [Bool.and_eq_true] at hplain
    have hline : ∀ c ∈ cs.getLast?, isBreak c = false := fun c hc =>
      ((bare_of_plainAllowed hplain.1).line c (List.mem_of_getLast? hc)).2
    dsimp only
    rw [endLine_eq_concat hline]
    exact leaf_plain hplain.1 ht
  · have hfeed : '\n' ∉ cs := by simpa using hmany
    have hread := quoted_writeSingle (Nat.succ_pos least) (t := '\n' :: t) (by simp)
      (.of_singleAllowed hsingle hfeed)
    exact leaf_quoted (Or.inr rfl) hread
  · exact leaf_quoted (Or.inl rfl) (quoted_writeDouble cs _)

end Texts

/-! ## Trees as they stand in a document -/

mutual

/-- A tree as it stands in a written document. -/
def node : Yaml → YamlNode
  | text s => .scalar none s
  | number k => .scalar none (String.ofList (Decimal.digits k))
  | flag b => .scalar none (String.ofList (flagWord b))
  | list ys => .list none (nodes ys)
  | record fs => .record none (fieldNodes fs)
termination_by structural y => y

/-- Items as they stand in a written document. -/
def nodes : List Yaml → List YamlNode
  | [] => []
  | y :: ys => y.node :: nodes ys
termination_by structural ys => ys

/-- Fields as they stand in a written document. -/
def fieldNodes : List (String × Yaml) → List (YamlNode × YamlNode)
  | [] => []
  | f :: fs => fieldNode f :: fieldNodes fs
termination_by structural fs => fs

/-- A field as it stands in a written document. -/
def fieldNode : String × Yaml → YamlNode × YamlNode
  | (k, y) => (.scalar none k, y.node)
termination_by structural f => f

end

/-! ## Where parts begin -/

section Starts

variable {fuel least m : Nat} {limit : Option Nat} {k : String} {r v t : List Char}

theorem startsKey_key (h : isKey k = true) (r : List Char) : StartsKey (k.toList ++ r) := by
  obtain ⟨c, cs, heq, hc, -⟩ := exists_key_eq h
  exact ⟨c, cs ++ r, by rw [heq, List.cons_append], hc⟩

theorem startsKey_writeField {f : String × Yaml} (h : isKey f.1 = true) (n : Nat) (r : List Char) :
    StartsKey (writeField n f ++ r) := by
  rcases f with ⟨k, y⟩
  rw [writeField, List.append_assoc]
  exact startsKey_key h _

/-- A key does not begin with a sign. -/
theorem sign?_of_startsKey (sign : Char) (hsign : isLetter sign = false) {cs : List Char}
    (h : StartsKey cs) (m : Nat) : (Spot.mk m cs).sign? sign = none := by
  obtain ⟨c, r, rfl, hc⟩ := h
  have hne : sign ≠ c := by
    rintro rfl
    exact absurd hc (by simp [hsign])
  simp [Spot.sign?, hne]

theorem sign?_dash (m : Nat) (r : List Char) :
    (Spot.mk m ('-' :: ' ' :: r)).sign? '-' = some (' ' :: r) := by
  simp [Spot.sign?, startsBlank, isGap]

/-- What begins with a key is a record. -/
theorem readNode_key (hk : isKey k = true) (hv : startsBlank v = true) (hm : least ≤ m) :
    readNode (fuel + 1) least limit ⟨m, k.toList ++ ':' :: v⟩ =
      (readFields fuel m ⟨m, k.toList ++ ':' :: v⟩).map fun (fs, s) => (.record none fs, s) := by
  have hstart := startsKey_key hk (':' :: v)
  have hfield : startsField ⟨m, k.toList ++ ':' :: v⟩ = true := by
    simp [startsField, readKey_key hk hv]
  simp [readNode, StartsPart.isEnd (Or.inl hstart), sign?_of_startsKey '-' (by decide) hstart,
    hfield, Nat.not_lt.mpr hm]

/-- What begins with a dash is a list. -/
theorem readNode_dash (hm : least ≤ m ∨ limit = some m) :
    readNode (fuel + 1) least limit ⟨m, '-' :: ' ' :: r⟩ =
      (readItems fuel m ⟨m, '-' :: ' ' :: r⟩).map fun (xs, s) => (.list none xs, s) := by
  have hend := StartsPart.isEnd (Or.inr ⟨r, rfl⟩ : StartsPart ('-' :: ' ' :: r)) m
  rcases hm with hm | rfl
  · simp [readNode, hend, sign?_dash, Nat.not_lt.mpr hm]
  · simp [readNode, hend, sign?_dash]

/-- A field is read by its key and its value. -/
theorem readField_key (hk : isKey k = true) (hv : startsBlank v = true) {s : Spot} {n : YamlNode}
    (h : readValue fuel m v = some (n, s)) :
    readField (fuel + 1) m ⟨m, k.toList ++ ':' :: v⟩ = some ((.scalar none k, n), s) := by
  have hstart := startsKey_key hk (':' :: v)
  simp [readField, sign?_of_startsKey '?' (by decide) hstart,
    sign?_of_startsKey ':' (by decide) hstart, readKey_key hk hv, h]

end Starts

/-! ## Lines of parts -/

/-- What is written of a tree behind a colon or behind a dash is read back, whatever follows it,
with fuel for four steps at each of its characters. -/
structure ReadsBack (y : Yaml) : Prop where
  value : ∀ {n fuel t}, Tail n t → 4 * (writeValue n y).length + 4 ≤ fuel →
    readValue fuel n (writeValue n y ++ t) = some (y.node, Spot.next 0 t)
  item : ∀ {n fuel t}, Follows (n + 1) t → 4 * (writeItem n y).length + 4 ≤ fuel →
    readNode fuel (n + 1) none (Spot.next (n + 1) (writeItem n y ++ t)) =
      some (y.node, Spot.next 0 t)

section Lines

variable {n fuel : Nat} {t : List Char}

theorem length_writeField_pos (n : Nat) (f : String × Yaml) : 0 < (writeField n f).length := by
  rcases f with ⟨k, y⟩
  rw [writeField, List.length_append, List.length_cons]
  omega

theorem startsBlank_writeValue (n : Nat) (y : Yaml) (t : List Char) :
    startsBlank (writeValue n y ++ t) = true := by
  rcases y with s | k | b | (_ | ⟨y, ys⟩) | (_ | ⟨f, fs⟩) <;> rfl

/-- An item stands before further items of its list. -/
theorem follows_writeItems (ht : Tail n t) (ys : List Yaml) :
    Follows (n + 1) (writeItems n ys ++ t) := by
  rcases ys with _ | ⟨y, ys⟩
  · exact ht.follows
  · obtain ⟨r, hr⟩ := exists_writeItem_eq n y
    have hpart : StartsPart ('-' :: ' ' :: (r ++ (writeItems n ys ++ t))) := Or.inr ⟨_, rfl⟩
    have hline := Follows.line (Nat.lt_succ_self n) hpart
    simpa [writeItems, hr] using hline

/-- A field stands before further fields of its record. -/
theorem tail_writeFields (ht : Follows n t) {fs : List (String × Yaml)}
    (hkeys : ∀ f ∈ fs, isKey f.1 = true) : Tail n (writeFields n fs ++ t) := by
  rcases fs with _ | ⟨f, fs⟩
  · exact Or.inl ht
  · have hstart := startsKey_writeField (hkeys f (List.mem_cons_self ..)) n
      (writeFields n fs ++ t)
    exact Or.inr ⟨_, hstart, by simp [writeFields]⟩

/-- What follows the last item of a list is no further item of it. -/
theorem not_item_of_tail (ht : Tail n t) :
    (!(Spot.next 0 t).isEnd && (Spot.next 0 t).column == n &&
      ((Spot.next 0 t).sign? '-').isSome) = false := by
  rcases ht with ht | ⟨cs, hcs, rfl⟩
  · rcases ht.before with hend | hcolumn
    · simp [hend]
    · simp [hcolumn.ne]
  · simp [StartsPart.next_spaces (Or.inl hcs), sign?_of_startsKey '-' (by decide) hcs]

/-- What follows the last field of a record is no further field of it. -/
theorem not_field_of_follows (ht : Follows n t) :
    (!(Spot.next 0 t).isEnd && (Spot.next 0 t).column == n) = false := by
  rcases ht.before with hend | hcolumn
  · simp [hend]
  · simp [hcolumn.ne]

theorem next_writeItems (k n : Nat) (y : Yaml) (ys : List Yaml) (t : List Char) :
    Spot.next k (writeItems n (y :: ys) ++ t) =
      ⟨k + n, '-' :: (writeItem n y ++ (writeItems n ys ++ t))⟩ := by
  rw [writeItems, List.append_assoc, List.append_assoc, List.cons_append]
  exact Spot.next_spaces (by decide) k n _

theorem next_writeFields {f : String × Yaml} (hkey : isKey f.1 = true) (k n : Nat)
    (fs : List (String × Yaml)) (t : List Char) :
    Spot.next k (writeFields n (f :: fs) ++ t) =
      ⟨k + n, writeField n f ++ (writeFields n fs ++ t)⟩ := by
  rw [writeFields, List.append_assoc, List.append_assoc]
  exact StartsPart.next_spaces (Or.inl (startsKey_writeField hkey n _)) k n

/-- An item is read, and further items are read if it is followed by one. -/
theorem readItems_succ {y : Yaml} (hy : ReadsBack y) (ht : Follows (n + 1) t)
    (hfuel : 4 * (writeItem n y).length + 4 ≤ fuel) :
    readItems (fuel + 1) n ⟨n, '-' :: (writeItem n y ++ t)⟩ =
      if !(Spot.next 0 t).isEnd && (Spot.next 0 t).column == n &&
        ((Spot.next 0 t).sign? '-').isSome then
        (readItems fuel n (Spot.next 0 t)).map fun (xs, s) => (y.node :: xs, s)
      else some ([y.node], Spot.next 0 t) := by
  obtain ⟨r, hr⟩ := exists_writeItem_eq n y
  have hread := hy.item ht hfuel
  rw [hr, List.cons_append] at hread ⊢
  simp only [readItems, sign?_dash, Option.bind_eq_bind, Option.bind_some, hread]
  split
  · rw [Option.map_eq_bind]
    rfl
  · rfl

/-- The items of a list are read back. -/
theorem readItems_eq {y : Yaml} {ys : List Yaml} (h : ∀ x ∈ y :: ys, ReadsBack x) (ht : Tail n t)
    (hfuel : 4 * (writeItem n y ++ writeItems n ys).length + 5 ≤ fuel) :
    readItems fuel n ⟨n, '-' :: (writeItem n y ++ (writeItems n ys ++ t))⟩ =
      some (nodes (y :: ys), Spot.next 0 t) := by
  induction ys generalizing y fuel with
  | nil =>
    obtain ⟨hy, -⟩ := List.forall_mem_cons.mp h
    obtain ⟨fuel, rfl⟩ : ∃ k, fuel = k + 1 := ⟨fuel - 1, by omega⟩
    rw [List.length_append] at hfuel
    rw [writeItems, List.nil_append, readItems_succ hy ht.follows (by omega), not_item_of_tail ht]
    rfl
  | cons z ys ih =>
    obtain ⟨hy, hmore⟩ := List.forall_mem_cons.mp h
    obtain ⟨fuel, rfl⟩ : ∃ k, fuel = k + 1 := ⟨fuel - 1, by omega⟩
    have hlength : (writeItems n (z :: ys)).length =
        n + 1 + (writeItem n z ++ writeItems n ys).length := by
      simp only [writeItems, spaces, List.length_append, List.length_cons, List.length_replicate]
      omega
    rw [List.length_append, hlength] at hfuel
    obtain ⟨r, hr⟩ := exists_writeItem_eq n z
    have hnext : (!(Spot.mk n ('-' :: (writeItem n z ++ (writeItems n ys ++ t)))).isEnd &&
        n == n && ((Spot.mk n ('-' :: (writeItem n z ++ (writeItems n ys ++ t)))).sign? '-').isSome)
        = true := by
      rw [hr, List.cons_append, sign?_dash, StartsPart.isEnd (Or.inr ⟨_, rfl⟩)]
      simp
    rw [readItems_succ hy (follows_writeItems ht (z :: ys)) (by omega), next_writeItems,
      Nat.zero_add, if_pos hnext, ih hmore (by omega)]
    rfl

/-- A field is read, and further fields are read if it is followed by one. -/
theorem readFields_succ {f : String × Yaml} (hkey : isKey f.1 = true) (hf : ReadsBack f.2)
    (ht : Tail n t) (hfuel : 4 * (writeField n f).length ≤ fuel) :
    readFields (fuel + 1) n ⟨n, writeField n f ++ t⟩ =
      if !(Spot.next 0 t).isEnd && (Spot.next 0 t).column == n then
        (readFields fuel n (Spot.next 0 t)).map fun (fs, s) => (fieldNode f :: fs, s)
      else some ([fieldNode f], Spot.next 0 t) := by
  rcases f with ⟨k, y⟩
  change ReadsBack y at hf
  have hlength : 0 < k.toList.length := by
    obtain ⟨c, cs, heq, -⟩ := exists_key_eq hkey
    rw [heq]
    exact Nat.succ_pos _
  rw [writeField, List.length_append, List.length_cons] at hfuel
  obtain ⟨fuel, rfl⟩ : ∃ k, fuel = k + 1 := ⟨fuel - 1, by omega⟩
  have hvalue : readValue fuel n (writeValue n y ++ t) = some (y.node, Spot.next 0 t) :=
    hf.value ht (by omega)
  have hread := readField_key hkey (startsBlank_writeValue n y t) hvalue
  dsimp only at hread
  rw [writeField, List.append_assoc, List.cons_append, readFields]
  simp only [Option.bind_eq_bind, hread, Option.bind_some]
  split
  · rw [Option.map_eq_bind]
    rfl
  · rfl

/-- The fields of a record are read back. -/
theorem readFields_eq {f : String × Yaml} {fs : List (String × Yaml)}
    (hkeys : ∀ g ∈ f :: fs, isKey g.1 = true) (h : ∀ g ∈ f :: fs, ReadsBack g.2)
    (ht : Follows n t) (hfuel : 4 * (writeField n f ++ writeFields n fs).length + 1 ≤ fuel) :
    readFields fuel n ⟨n, writeField n f ++ (writeFields n fs ++ t)⟩ =
      some (fieldNodes (f :: fs), Spot.next 0 t) := by
  induction fs generalizing f fuel with
  | nil =>
    obtain ⟨hf, -⟩ := List.forall_mem_cons.mp h
    obtain ⟨hkey, -⟩ := List.forall_mem_cons.mp hkeys
    obtain ⟨fuel, rfl⟩ : ∃ k, fuel = k + 1 := ⟨fuel - 1, by omega⟩
    rw [List.length_append] at hfuel
    rw [writeFields, List.nil_append, readFields_succ hkey hf (Or.inl ht) (by omega),
      not_field_of_follows ht]
    rfl
  | cons g fs ih =>
    obtain ⟨hf, hrest⟩ := List.forall_mem_cons.mp h
    obtain ⟨hkey, hmore⟩ := List.forall_mem_cons.mp hkeys
    obtain ⟨fuel, rfl⟩ : ∃ k, fuel = k + 1 := ⟨fuel - 1, by omega⟩
    have hlength : (writeFields n (g :: fs)).length =
        n + (writeField n g ++ writeFields n fs).length := by
      simp only [writeFields, spaces, List.length_append, List.length_replicate]
      omega
    have hfull := length_writeField_pos n f
    rw [List.length_append, hlength] at hfuel
    have hnext : (!(Spot.mk n (writeField n g ++ (writeFields n fs ++ t))).isEnd && n == n)
        = true := by
      have hstart := startsKey_writeField (hmore g (List.mem_cons_self ..)) n
        (writeFields n fs ++ t)
      simp [StartsPart.isEnd (Or.inl hstart)]
    have htail := tail_writeFields ht hmore
    rw [readFields_succ hkey hf htail (by omega),
      next_writeFields (hmore g (List.mem_cons_self ..)), Nat.zero_add, if_pos hnext,
      ih hmore hrest (by omega)]
    rfl

section Nodes

variable {least : Nat} {limit : Option Nat}

/-- Items where a part may stand are read back as a list. -/
theorem readNode_writeItems {y : Yaml} {ys : List Yaml} (h : ∀ x ∈ y :: ys, ReadsBack x)
    (ht : Tail n t) (hn : least ≤ n ∨ limit = some n)
    (hfuel : 4 * (writeItem n y ++ writeItems n ys).length + 6 ≤ fuel) :
    readNode fuel least limit ⟨n, '-' :: (writeItem n y ++ (writeItems n ys ++ t))⟩ =
      some (.list none (nodes (y :: ys)), Spot.next 0 t) := by
  obtain ⟨fuel, rfl⟩ : ∃ k, fuel = k + 1 := ⟨fuel - 1, by omega⟩
  have hread := readItems_eq h ht (show _ ≤ fuel by omega)
  obtain ⟨r, hr⟩ := exists_writeItem_eq n y
  rw [hr, List.cons_append] at hread ⊢
  rw [readNode_dash hn, hread]
  rfl

/-- Fields where a part may stand are read back as a record. -/
theorem readNode_writeFields {f : String × Yaml} {fs : List (String × Yaml)}
    (hkeys : ∀ g ∈ f :: fs, isKey g.1 = true) (h : ∀ g ∈ f :: fs, ReadsBack g.2)
    (ht : Follows n t) (hn : least ≤ n)
    (hfuel : 4 * (writeField n f ++ writeFields n fs).length + 2 ≤ fuel) :
    readNode fuel least limit ⟨n, writeField n f ++ (writeFields n fs ++ t)⟩ =
      some (.record none (fieldNodes (f :: fs)), Spot.next 0 t) := by
  obtain ⟨fuel, rfl⟩ : ∃ k, fuel = k + 1 := ⟨fuel - 1, by omega⟩
  have hread := readFields_eq hkeys h ht (show _ ≤ fuel by omega)
  have hkey := hkeys f (List.mem_cons_self ..)
  rcases f with ⟨k, y⟩
  rw [writeField, List.append_assoc, List.cons_append] at hread ⊢
  rw [readNode_key hkey (startsBlank_writeValue n y _) hn, hread]
  rfl

end Nodes

end Lines

/-! ## Whole trees -/

theorem ReadsBack.of_leaf {y : Yaml} {w : Nat → List Char}
    (hvalue : ∀ n, writeValue n y = ' ' :: w n) (hitem : ∀ n, writeItem n y = ' ' :: w n)
    (h : ∀ n t, Follows (n + 1) t → Leaf (n + 1) (w n) t y.node) : ReadsBack y := by
  constructor
  · intro n fuel t ht hfuel
    obtain ⟨fuel, rfl⟩ : ∃ k, fuel = k + 1 := ⟨fuel - 1, by omega⟩
    rw [hvalue]
    exact (h n t ht.follows).readValue_eq fuel
  · intro n fuel t ht hfuel
    obtain ⟨fuel, rfl⟩ : ∃ k, fuel = k + 2 := ⟨fuel - 2, by omega⟩
    rw [hitem]
    exact (h n t ht).readNode_eq fuel

/-- A list with items is read back if its items are. -/
theorem ReadsBack.list {y : Yaml} {ys : List Yaml} (h : ∀ x ∈ y :: ys, ReadsBack x) :
    ReadsBack (list (y :: ys)) := by
  constructor
  · intro n fuel t ht hfuel
    obtain ⟨fuel, rfl⟩ : ∃ k, fuel = k + 1 := ⟨fuel - 1, by omega⟩
    simp only [writeValue, writeItems, spaces, List.length_cons, List.length_append,
      List.length_replicate] at hfuel
    rw [writeValue, List.cons_append, readValue, restOfLine_newline, next_writeItems, Nat.zero_add]
    exact readNode_writeItems h ht (Or.inr rfl) (by rw [List.length_append]; omega)
  · intro n fuel t ht hfuel
    simp only [writeItem, List.length_cons, List.length_append] at hfuel
    have hspot : Spot.next (n + 1) (writeItem n (.list (y :: ys)) ++ t) =
        ⟨n + 2, '-' :: (writeItem (n + 2) y ++ (writeItems (n + 2) ys ++ t))⟩ := by
      rw [writeItem, List.append_assoc]
      exact Spot.next_spaces (by decide) (n + 1) 1 _
    rw [hspot]
    exact readNode_writeItems h (Or.inl (ht.mono (by omega))) (Or.inl (by omega))
      (by rw [List.length_append]; omega)

/-- A record with fields is read back if their values are. -/
theorem ReadsBack.record {f : String × Yaml} {fs : List (String × Yaml)}
    (hkeys : ∀ g ∈ f :: fs, isKey g.1 = true) (h : ∀ g ∈ f :: fs, ReadsBack g.2) :
    ReadsBack (record (f :: fs)) := by
  have hkey := hkeys f (List.mem_cons_self ..)
  constructor
  · intro n fuel t ht hfuel
    obtain ⟨fuel, rfl⟩ : ∃ k, fuel = k + 1 := ⟨fuel - 1, by omega⟩
    simp only [writeValue, writeFields, spaces, List.length_cons, List.length_append,
      List.length_replicate] at hfuel
    rw [writeValue, List.cons_append, readValue, restOfLine_newline, next_writeFields hkey,
      Nat.zero_add]
    exact readNode_writeFields hkeys h (ht.follows.mono (by omega)) (by omega)
      (by rw [List.length_append]; omega)
  · intro n fuel t ht hfuel
    simp only [writeItem, List.length_cons, List.length_append] at hfuel
    have hspot : Spot.next (n + 1) (writeItem n (.record (f :: fs)) ++ t) =
        ⟨n + 2, writeField (n + 2) f ++ (writeFields (n + 2) fs ++ t)⟩ := by
      rw [writeItem, List.append_assoc]
      exact StartsPart.next_spaces (Or.inl (startsKey_writeField hkey _ _)) (n + 1) 1
    rw [hspot]
    exact readNode_writeFields hkeys h (ht.mono (by omega)) (by omega)
      (by rw [List.length_append]; omega)

/-- **What is written of a tidy tree is read back.** -/
theorem readsBack_of_tidy {y : Yaml} (h : y.Tidy fun _ => True) : ReadsBack y := by
  induction y using Yaml.induction with
  | text s =>
    exact .of_leaf (fun n => rfl) (fun n => rfl) fun n t ht => leaf_text (Nat.succ_pos n) ht s
  | number k =>
    exact .of_leaf (fun n => rfl) (fun n => rfl) fun n t ht => leaf_plain (plainAllowed_digits k) ht
  | flag b =>
    exact .of_leaf (fun n => rfl) (fun n => rfl) fun n t ht =>
      leaf_plain (plainAllowed_flagWord b) ht
  | list ys ih =>
    have hitems : ∀ y ∈ ys, ReadsBack y := fun y hy => ih y hy (TidyItems.of_mem h hy)
    cases ys with
    | nil => exact .of_leaf (fun n => rfl) (fun n => rfl) fun n t ht => leaf_emptyList
    | cons y ys => exact .list hitems
  | record fs ih =>
    have hkeys : ∀ f ∈ fs, isKey f.1 = true := fun f hf => (TidyFields.of_mem h hf).1
    have hfields : ∀ f ∈ fs, ReadsBack f.2 := fun f hf => ih f hf (TidyFields.of_mem h hf).2
    cases fs with
    | nil => exact .of_leaf (fun n => rfl) (fun n => rfl) fun n t ht => leaf_emptyRecord
    | cons f fs => exact .record hkeys hfields

/-! ## Whole documents -/

section Documents

variable {f : String × Yaml} {fs : List (String × Yaml)}

theorem skipDirectives_of_startsKey {cs : List Char} (h : StartsKey cs) (fuel m : Nat) :
    skipDirectives (fuel + 1) ⟨m, cs⟩ = some ⟨m, cs⟩ := by
  obtain ⟨c, r, rfl, hc⟩ := h
  have hpercent : c ≠ '%' := by
    rintro rfl
    exact absurd hc (by decide)
  simp [skipDirectives, hpercent]

theorem skipOrderMark_of_startsKey {cs : List Char} (h : StartsKey cs) :
    skipOrderMark cs = cs := by
  obtain ⟨c, r, rfl, hc⟩ := h
  have hmark : c ≠ '\uFEFF' := by
    rintro rfl
    exact absurd hc (by decide)
  simp [skipOrderMark, hmark]

/-- A text that begins with a key has no lines before its part, and none of the part's lines ends
the document. -/
theorem readDocument_of_startsKey {cs : List Char} {n : YamlNode} (hstart : StartsKey cs)
    (hreadable : Readable cs)
    (hread : readNode (4 * cs.length + 8) 0 none ⟨0, cs⟩ = some (n, ⟨0, []⟩)) :
    readDocument cs = some n := by
  have hspot : Spot.next 0 cs = ⟨0, cs⟩ := StartsPart.next_spaces (Or.inl hstart) 0 0
  have hmark : Spot.startsMark '-' cs = false := by
    have hmarks := StartsPart.startsAnyMark (Or.inl hstart)
    rw [Spot.startsAnyMark, Bool.or_eq_false_iff] at hmarks
    exact hmarks.1
  have hfull : cs ≠ [] := by
    obtain ⟨c, r, rfl, -⟩ := hstart
    exact List.cons_ne_nil c r
  have hall := List.all_eq_true.mpr hreadable
  simp [readDocument, hall, skipOrderMark_of_startsKey hstart, hspot,
    skipDirectives_of_startsKey hstart, hfull, readRoot, hmark, hread, isFinal]

/-- **A written record is read back.** -/
theorem readDocument_write (h : (record (f :: fs)).Tidy fun _ => True) :
    readDocument (write (record (f :: fs))) = some (record (f :: fs)).node := by
  have hkeys : ∀ g ∈ f :: fs, isKey g.1 = true := fun g hg => (TidyFields.of_mem h hg).1
  have hfields : ∀ g ∈ f :: fs, ReadsBack g.2 := fun g hg =>
    readsBack_of_tidy (TidyFields.of_mem h hg).2
  have hwritten : write (record (f :: fs)) = writeField 0 f ++ (writeFields 0 fs ++ []) := by
    rw [List.append_nil]
    rfl
  have hread {fuel : Nat} (hfuel : 4 * (writeField 0 f ++ writeFields 0 fs).length + 2 ≤ fuel) :
      readNode fuel 0 none ⟨0, writeField 0 f ++ (writeFields 0 fs ++ [])⟩ =
        some (.record none (fieldNodes (f :: fs)), ⟨0, []⟩) :=
    readNode_writeFields hkeys hfields .nothing (Nat.le_refl 0) hfuel
  have hreadable := readable_write h
  rw [hwritten] at hreadable ⊢
  exact readDocument_of_startsKey (startsKey_writeField (hkeys f (List.mem_cons_self ..)) 0 _)
    hreadable (hread (by rw [List.append_nil]; omega))

end Documents

/-! ## Names looked up -/

mutual

/-- What a tree as it stands in a document stands for. -/
def value : Yaml → YamlValue
  | text s => .text s
  | number k => .text (String.ofList (Decimal.digits k))
  | flag b => .text (String.ofList (flagWord b))
  | list ys => .list (values ys)
  | record fs => .record (fieldValues fs)
termination_by structural y => y

/-- What items stand for. -/
def values : List Yaml → List YamlValue
  | [] => []
  | y :: ys => y.value :: values ys
termination_by structural ys => ys

/-- What fields stand for. -/
def fieldValues : List (String × Yaml) → List (YamlValue × YamlValue)
  | [] => []
  | f :: fs => fieldValue f :: fieldValues fs
termination_by structural fs => fs

/-- What a field stands for. -/
def fieldValue : String × Yaml → YamlValue × YamlValue
  | (k, y) => (.text k, y.value)
termination_by structural f => f

end

/-- A tree gives no names and refers to none. -/
theorem resolve_node (names : YamlNode.Anchors) (y : Yaml) :
    y.node.resolve names = some (y.value, names) := by
  induction y using Yaml.induction with
  | text s => rfl
  | number k => rfl
  | flag b => rfl
  | list ys ih =>
    have hitems : YamlNode.resolveItems names (nodes ys) = some (values ys, names) := by
      induction ys with
      | nil => rfl
      | cons y ys ihys =>
        obtain ⟨hy, hys⟩ := List.forall_mem_cons.mp ih
        simp [nodes, values, YamlNode.resolveItems, hy, ihys hys]
    simp [node, value, YamlNode.resolve, YamlNode.bind, hitems]
  | record fs ih =>
    have hfields : YamlNode.resolveFields names (fieldNodes fs) = some (fieldValues fs, names) := by
      induction fs with
      | nil => rfl
      | cons f fs ihfs =>
        obtain ⟨hf, hfs⟩ := List.forall_mem_cons.mp ih
        rcases f with ⟨k, y⟩
        simp [fieldNodes, fieldNode, fieldValues, fieldValue, YamlNode.resolveFields,
          YamlNode.resolveField, YamlNode.resolve, YamlNode.bind, hf, ihfs hfs]
    simp [node, value, YamlNode.resolve, YamlNode.bind, hfields]

/-- **A written record stands for what it was written from.** -/
theorem parse_write {f : String × Yaml} {fs : List (String × Yaml)}
    (h : (record (f :: fs)).Tidy fun _ => True) :
    parse (String.ofList (write (record (f :: fs)))) = some (record (f :: fs)).value := by
  rw [parse, String.toList_ofList, readDocument_write h, Option.bind_some, resolve_node]
  rfl

end Yaml

end NodeBootstrap
