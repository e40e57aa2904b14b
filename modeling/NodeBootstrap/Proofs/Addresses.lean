import NodeBootstrap.Endpoint
import NodeBootstrap.Proofs.Blanks
import NodeBootstrap.Proofs.Cutting
import NodeBootstrap.Proofs.Digits
import Mathlib.Data.List.DropRight
import Mathlib.Logic.ExistsUnique

/-!
# The shapes of addresses

An address is a host, a host with a port, or either of these with the host in brackets. Splitting
takes the brackets off without looking at how they stand, so it also takes other addresses.

* `Endpoint.Shape`, `Endpoint.Shaped`: the shapes, and what an address of one shape writes;
* `Endpoint.Tidy`: the addresses whose brackets stand as they should;
* `Endpoint.Taken`, `Endpoint.splitBare_eq_ok_iff`: what is split, and where;
* `Endpoint.Shape.Writes.splitBare_eq`, `Endpoint.shaped_of_splitBare`: an address of a shape is
  split, and a tidy one only then;
* **`Endpoint.split_shapes`**: splitting is reading the shapes, for addresses with tidy brackets;
* **`Endpoint.split_untidy`**: addresses of no shape that are split.
-/

namespace NodeBootstrap

namespace Endpoint

/-! ## Shapes -/

/-- No bracket. -/
def NoBracket (cs : List Char) : Prop := '[' ∉ cs ∧ ']' ∉ cs

/-- The shapes of an address. -/
inductive Shape where
  | host
  | hostPort
  | bracketed
  | bracketedPort
deriving DecidableEq, Repr

/-- An address of a shape writes an endpoint; `d` is the port of an address that has none. -/
def Shape.Writes (d : UInt16) (e : Endpoint) (t : List Char) : Shape → Prop
  | host => t = e.host.toList ∧ t.count ':' ≠ 1 ∧ e.port = d
  | hostPort => ∃ port, t = e.host.toList ++ ':' :: port ∧ ':' ∉ e.host.toList ∧
      Decimal.Denotes port e.port.toNat
  | bracketed => t = '[' :: (e.host.toList ++ [']']) ∧ e.port = d
  | bracketedPort => ∃ port, t = '[' :: (e.host.toList ++ ']' :: ':' :: port) ∧
      Decimal.Denotes port e.port.toNat

/-- An address of just one shape, with a host that is not blank and has no bracket. -/
structure Shaped (d : UInt16) (t : List Char) (e : Endpoint) : Prop where
  filled : Text.blank e.host = false
  noBracket : NoBracket e.host.toList
  shape : ∃! shape : Shape, shape.Writes d e t

/-- The brackets of an address, if there are any, stand around a host that is not blank, and
nothing follows them or one colon with what else there is. -/
def Tidy (t : List Char) : Prop :=
  NoBracket t ∨ ∃ host rest, t = '[' :: (host ++ ']' :: rest) ∧ NoBracket host ∧
    (∃ c ∈ host, isBlank c = false) ∧ (rest = [] ∨ ∃ port, rest = ':' :: port ∧ ':' ∉ port)

/-! ## Ports and hosts -/

section Parts

variable {d p : UInt16} {t cs port : List Char} {e : Endpoint}

theorem readPort?_eq_some_iff : readPort? cs = some p ↔ Decimal.Denotes cs p.toNat := by
  rw [readPort?, Option.map_eq_some_iff]
  constructor
  · rintro ⟨n, hn, rfl⟩
    obtain ⟨hdenotes, hlt⟩ := Decimal.read?_eq_some_iff.mp hn
    rwa [UInt16.toNat_ofNat_of_lt' hlt]
  · intro h
    exact ⟨p.toNat, Decimal.read?_eq_some_iff.mpr ⟨h, p.toNat_lt⟩, by simp⟩

theorem denotes_portChars (p : UInt16) : Decimal.Denotes (portChars p) p.toNat :=
  Decimal.denotes_digits _

theorem not_mem_of_denotes {n : Nat} (h : Decimal.Denotes port n) {c : Char} (hplus : c ≠ '+')
    (hdigit : Decimal.isDigit c = false) : c ∉ port := fun hc => by
  rcases h.isDigit_of_mem hc with rfl | hc
  · exact hplus rfl
  · rw [hdigit] at hc
    cases hc

theorem colon_not_mem {n : Nat} (h : Decimal.Denotes port n) : ':' ∉ port :=
  not_mem_of_denotes h (by decide) (by decide)

theorem closing_not_mem {n : Nat} (h : Decimal.Denotes port n) : ']' ∉ port :=
  not_mem_of_denotes h (by decide) (by decide)

theorem bareHost_of_noBracket (h : NoBracket cs) : bareHost cs = cs := by
  have hfront : cs.dropWhile (· == '[') = cs := List.dropWhile_eq_self_iff.mpr fun hlength => by
    have hne : cs[0] ≠ '[' := fun heq => h.1 (heq ▸ List.getElem_mem hlength)
    simpa using hne
  rw [bareHost, hfront]
  refine List.rdropWhile_eq_self_iff.mpr fun hne => ?_
  have hlast : cs.getLast hne ≠ ']' := fun heq => h.2 (heq ▸ List.getLast_mem hne)
  simpa using hlast

/-- An opening bracket before the host does not count. -/
theorem bareHost_cons (cs : List Char) : bareHost ('[' :: cs) = bareHost cs := by
  rw [bareHost, List.dropWhile_cons_of_pos (by decide)]
  rfl

/-- A closing bracket after the host does not count. -/
theorem bareHost_concat (cs : List Char) : bareHost (cs ++ [']']) = bareHost cs := by
  have hfront : (cs ++ [']']).dropWhile (· == '[') = cs.dropWhile (· == '[') ++ [']'] := by
    rw [List.dropWhile_append]
    split
    next hnil =>
      rw [List.isEmpty_iff.mp hnil]
      rfl
    next => rfl
  rw [bareHost, hfront]
  exact List.rdropWhile_concat_pos (· == ']') _ ']' (by decide)

/-! ## How an address is taken apart -/

/-- The part of an address with the host, and the port: the address has a port when something
follows its first closing bracket, or when it does not begin with a bracket and has one colon. -/
inductive Taken (d : UInt16) : List Char → List Char → UInt16 → Prop where
  | whole {t : List Char} (hhead : t.head? ≠ some '[') (hcount : t.count ':' ≠ 1) : Taken d t t d
  | enclosed {x : List Char} (hx : ']' ∉ x) : Taken d ('[' :: (x ++ [']'])) ('[' :: (x ++ [']'])) d
  | ported {body port : List Char} {p : UInt16} (hport : Decimal.Denotes port p.toNat)
      (hclosed : body.head? = some '[' → ']' ∈ body)
      (hcolon : body.head? ≠ some '[' → ':' ∉ body) : Taken d (body ++ ':' :: port) body p

/-- An address is split at the last colon once it has a port. -/
theorem splitBare_eq_ok_iff_of_withPort : splitBare t d = .ok e ↔
    ∃ body port, withPort t d = .ok (body ++ ':' :: port) ∧ Decimal.Denotes port e.port.toNat ∧
      bareHost body = e.host.toList ∧ e.host.toList ≠ [] := by
  constructor
  · intro h
    unfold splitBare at h
    split at h
    · cases h
    split at h
    · cases h
    next full hfull =>
      split at h
      · cases h
      next body port hcut =>
        obtain ⟨rfl, -⟩ := Chars.cutLast_eq_some_iff.mp hcut
        split at h
        · cases h
        next hne =>
          split at h
          · cases h
          next p hp =>
            cases h
            exact ⟨body, port, hfull, readPort?_eq_some_iff.mp hp, by simp, by simpa using hne⟩
  · rintro ⟨body, port, hfull, hport, hhost, hne⟩
    have ht : t ≠ [] := by
      rintro rfl
      have hbody : [] = body ∧ portChars d = port :=
        Chars.last_unique (colon_not_mem (denotes_portChars d)) (colon_not_mem hport)
          (Except.ok.inj hfull)
      rw [← hbody.1] at hhost
      exact hne hhost.symm
    rw [splitBare, if_neg ht, hfull]
    dsimp only
    rw [Chars.cutLast_append body (colon_not_mem hport)]
    dsimp only
    rw [if_neg (hhost ▸ hne), readPort?_eq_some_iff.mpr hport, hhost]
    simp

/-- The port that is put after an address without one. -/
theorem defaulted {body : List Char} (hport : Decimal.Denotes port p.toNat)
    (h : cs ++ ':' :: portChars d = body ++ ':' :: port) : body = cs ∧ p = d := by
  obtain ⟨rfl, rfl⟩ := Chars.last_unique (colon_not_mem (denotes_portChars d))
    (colon_not_mem hport) h
  exact ⟨rfl, UInt16.toNat_inj.mp (hport.unique (denotes_portChars d))⟩

theorem taken_of_withPort {body : List Char} (h : withPort t d = .ok (body ++ ':' :: port))
    (hport : Decimal.Denotes port p.toNat) :
    ∃ body', Taken d t body' p ∧ bareHost body' = bareHost body := by
  unfold withPort at h
  split at h
  next rest =>
    split at h
    · cases h
    next x hcut =>
      obtain ⟨rfl, hx⟩ := Chars.cut_eq_some_iff.mp hcut
      obtain ⟨rfl, rfl⟩ := defaulted hport (Except.ok.inj h)
      exact ⟨_, .enclosed hx, rfl⟩
    next x c tail hcut =>
      obtain ⟨rfl, -⟩ := Chars.cut_eq_some_iff.mp hcut
      have heq := Except.ok.inj h
      have hclosing : ']' ∈ body ++ ':' :: port := heq ▸ by simp
      rcases body with _ | ⟨b, body⟩
      · cases heq
      · obtain rfl : '[' = b := (List.cons.inj heq).1
        rw [heq]
        refine ⟨_, .ported hport (fun _ => ?_) fun hne => absurd rfl hne, rfl⟩
        simpa [closing_not_mem hport] using hclosing
  next hhead =>
    have hbracket : t.head? ≠ some '[' := fun heq => by
      obtain ⟨rest, rfl⟩ := List.head?_eq_some_iff.mp heq
      exact hhead rest rfl
    split at h
    next hcount =>
      obtain ⟨rfl, rfl⟩ := defaulted hport (Except.ok.inj h)
      exact ⟨_, .whole hbracket (by omega), rfl⟩
    next hcount =>
      obtain rfl := Except.ok.inj h
      have hcolon : ':' ∉ body := by
        rw [List.count_append, List.count_cons_self] at hcount
        exact List.count_eq_zero.mp (by omega)
      refine ⟨body, .ported hport (fun hbody => ?_) fun _ => hcolon, rfl⟩
      exact absurd (by rw [List.head?_append, hbody, Option.some_or]) hbracket
    next hzero hone =>
      have heq : ('[' :: (t ++ [']'])) ++ ':' :: portChars d = body ++ ':' :: port := by
        rw [← Except.ok.inj h]
        simp
      obtain ⟨rfl, rfl⟩ := defaulted hport heq
      exact ⟨t, .whole hbracket hone, ((bareHost_cons _).trans (bareHost_concat t)).symm⟩

theorem withPort_of_head (h : t.head? ≠ some '[') : withPort t d =
    match t.count ':' with
    | 0 => .ok (t ++ ':' :: portChars d)
    | 1 => .ok t
    | _ => .ok ('[' :: t ++ ']' :: ':' :: portChars d) := by
  unfold withPort
  split
  · exact absurd rfl h
  · rfl

theorem Taken.exists_withPort {body : List Char} (h : Taken d t body p) :
    ∃ body' port, withPort t d = .ok (body' ++ ':' :: port) ∧ Decimal.Denotes port p.toNat ∧
      bareHost body' = bareHost body := by
  cases h with
  | whole hhead hcount =>
    rw [withPort_of_head hhead]
    split
    · exact ⟨t, _, rfl, denotes_portChars d, rfl⟩
    next hone => exact absurd hone hcount
    · exact ⟨'[' :: (t ++ [']']), portChars d, by simp, denotes_portChars d,
        (bareHost_cons _).trans (bareHost_concat t)⟩
  | @enclosed x hx =>
    refine ⟨_, _, ?_, denotes_portChars d, rfl⟩
    rw [withPort, Chars.cut_append hx]
  | @ported _ port _ hport hclosed hcolon =>
    refine ⟨body, port, ?_, hport, rfl⟩
    by_cases hhead : body.head? = some '['
    · obtain ⟨cs, rfl⟩ := List.head?_eq_some_iff.mp hhead
      have hclosing : ']' ∈ cs := by simpa using hclosed hhead
      obtain ⟨x, rest, rfl, hx⟩ := List.eq_append_cons_of_mem hclosing
      rw [List.cons_append, List.append_assoc, List.cons_append, withPort, Chars.cut_append hx]
      rcases rest with _ | ⟨c, rest⟩
      · rfl
      · rfl
    · have hcount : (body ++ ':' :: port).count ':' = 1 := by
        rw [List.count_append, List.count_cons_self, List.count_eq_zero.mpr (hcolon hhead),
          List.count_eq_zero.mpr (colon_not_mem hport)]
      have hbracket : (body ++ ':' :: port).head? ≠ some '[' := by
        rcases body with _ | ⟨b, body⟩
        · simp
        · exact hhead
      rw [withPort_of_head hbracket, hcount]
      rfl

theorem splitBare_eq_ok_iff : splitBare t d = .ok e ↔
    ∃ body, Taken d t body e.port ∧ bareHost body = e.host.toList ∧ e.host.toList ≠ [] := by
  rw [splitBare_eq_ok_iff_of_withPort]
  constructor
  · rintro ⟨body, port, hfull, hport, hhost, hne⟩
    obtain ⟨body', htaken, hbody'⟩ := taken_of_withPort hfull hport
    exact ⟨body', htaken, hbody'.trans hhost, hne⟩
  · rintro ⟨body, htaken, hhost, hne⟩
    obtain ⟨body', port, hfull, hport, hbody'⟩ := htaken.exists_withPort
    exact ⟨body', port, hfull, hport, hbody'.trans hhost, hne⟩

/-! ## Addresses of a shape -/

/-- The shape that an address with a given host would have. -/
def Shape.of (host t : List Char) : Shape :=
  if t.head? = some '[' then
    if t = '[' :: (host ++ [']']) then bracketed else bracketedPort
  else if t = host then Shape.host else hostPort

section Shapes

variable (hbracket : NoBracket e.host.toList) (hne : e.host.toList ≠ [])

include hbracket

theorem head?_host_ne : e.host.toList.head? ≠ some '[' := fun hhead =>
  hbracket.1 (List.mem_of_head? hhead)

include hne

/-- An address has no shape but the one that its beginning and its length tell. -/
theorem Shape.Writes.eq_of {s : Shape} (h : s.Writes d e t) : s = Shape.of e.host.toList t := by
  cases s with
  | host =>
    obtain ⟨rfl, -⟩ := h
    rw [Shape.of, if_neg (head?_host_ne hbracket), if_pos rfl]
  | hostPort =>
    obtain ⟨port, rfl, -⟩ := h
    have hhead : (e.host.toList ++ ':' :: port).head? ≠ some '[' := by
      rw [List.head?_append_of_ne_nil _ hne]
      exact head?_host_ne hbracket
    rw [Shape.of, if_neg hhead, if_neg (by simp)]
  | bracketed =>
    obtain ⟨rfl, -⟩ := h
    rw [Shape.of, if_pos List.head?_cons, if_pos rfl]
  | bracketedPort =>
    obtain ⟨port, rfl, -⟩ := h
    rw [Shape.of, if_pos List.head?_cons, if_neg (by simp)]

/-- An address of a shape is split as its shape says. -/
theorem Shape.Writes.splitBare_eq {s : Shape} (h : s.Writes d e t) : splitBare t d = .ok e := by
  have hbare := bareHost_of_noBracket hbracket
  have henclosed : bareHost ('[' :: (e.host.toList ++ [']'])) = e.host.toList := by
    rw [bareHost_cons, bareHost_concat, hbare]
  rw [splitBare_eq_ok_iff]
  cases s with
  | host =>
    obtain ⟨rfl, hcount, rfl⟩ := h
    exact ⟨_, .whole (head?_host_ne hbracket) hcount, hbare, hne⟩
  | hostPort =>
    obtain ⟨port, rfl, hcolon, hport⟩ := h
    exact ⟨_, .ported hport (fun hhead => absurd hhead (head?_host_ne hbracket)) fun _ => hcolon,
      hbare, hne⟩
  | bracketed =>
    obtain ⟨rfl, rfl⟩ := h
    exact ⟨_, .enclosed hbracket.2, henclosed, hne⟩
  | bracketedPort =>
    obtain ⟨port, rfl, hport⟩ := h
    have htaken : Taken d ('[' :: (e.host.toList ++ [']']) ++ ':' :: port)
        ('[' :: (e.host.toList ++ [']'])) e.port :=
      .ported hport (fun _ => by simp) fun hhead => absurd rfl hhead
    exact ⟨_, by simpa using htaken, henclosed, hne⟩

end Shapes

/-! ## Tidy addresses -/

/-- What is taken from an address without brackets. -/
theorem Taken.writes_of_noBracket {body : List Char} (h : Taken d t body e.port)
    (ht : NoBracket t) (hhost : bareHost body = e.host.toList) :
    NoBracket e.host.toList ∧ ∃ s : Shape, s.Writes d e t ∧ e.host.toList <+: t := by
  cases h with
  | whole hhead hcount =>
    rw [bareHost_of_noBracket ht] at hhost
    exact ⟨hhost ▸ ht, .host, ⟨hhost, hcount, rfl⟩, hhost ▸ List.prefix_rfl⟩
  | enclosed => exact absurd (List.mem_cons_self) ht.1
  | @ported _ port _ hport hclosed hcolon =>
    have hbody : NoBracket body :=
      ⟨mt (List.mem_append_left _) ht.1, mt (List.mem_append_left _) ht.2⟩
    rw [bareHost_of_noBracket hbody] at hhost
    have hhead : body.head? ≠ some '[' := mt List.mem_of_head? hbody.1
    exact ⟨hhost ▸ hbody, .hostPort, ⟨port, hhost ▸ rfl, hhost ▸ hcolon hhead, hport⟩,
      hhost ▸ List.prefix_append _ _⟩

/-- What is taken from an address that begins with a host in brackets. -/
theorem Taken.writes_of_enclosed {body x rest : List Char} (h : Taken d t body e.port)
    (ht : t = '[' :: (x ++ ']' :: rest)) (hx : NoBracket x)
    (hrest : rest = [] ∨ ∃ port, rest = ':' :: port ∧ ':' ∉ port)
    (hhost : bareHost body = e.host.toList) :
    e.host.toList = x ∧ ∃ s : Shape, s.Writes d e t := by
  have henclosed : bareHost ('[' :: (x ++ [']'])) = x := by
    rw [bareHost_cons, bareHost_concat, bareHost_of_noBracket hx]
  cases h with
  | whole hhead hcount => exact absurd (ht ▸ rfl) hhead
  | @enclosed y hy =>
    obtain ⟨rfl, rfl⟩ := Chars.first_unique hy hx.2 (List.cons.inj ht).2
    rw [henclosed] at hhost
    exact ⟨hhost.symm, .bracketed, by rw [hhost], rfl⟩
  | @ported _ port _ hport hclosed hcolon =>
    rcases hrest with rfl | ⟨q, rfl, hq⟩
    · have hclosing : ']' ∈ body ++ ':' :: port := ht ▸ by simp
      have hmem : ']' ∈ body := by simpa [closing_not_mem hport] using hclosing
      obtain ⟨front, back, rfl, hfront⟩ := List.eq_append_cons_of_mem hmem
      have heq : front ++ ']' :: (back ++ ':' :: port) = '[' :: x ++ ']' :: [] := by simpa using ht
      have hback := (Chars.first_unique hfront (by simp [hx.2]) heq).2
      simp at hback
    · have heq : body ++ ':' :: port = '[' :: (x ++ [']']) ++ ':' :: q := by simpa using ht
      obtain ⟨rfl, rfl⟩ := Chars.last_unique (colon_not_mem hport) hq heq
      rw [henclosed] at hhost
      exact ⟨hhost.symm, .bracketedPort, _, by simp [hhost], hport⟩

/-- An address of a shape is tidy. -/
theorem Shaped.tidy (h : Shaped d t e) : Tidy t := by
  obtain ⟨c, hc, hfilled⟩ : ∃ c ∈ e.host.toList, isBlank c = false := by
    simpa [Text.blank] using h.filled
  have hport {port : List Char} {n : Nat} (hport : Decimal.Denotes port n) : NoBracket port :=
    ⟨not_mem_of_denotes hport (by decide) (by decide), closing_not_mem hport⟩
  obtain ⟨s, hs, -⟩ := h.shape
  cases s with
  | host =>
    obtain ⟨rfl, -⟩ := hs
    exact Or.inl h.noBracket
  | hostPort =>
    obtain ⟨port, rfl, -, hdenotes⟩ := hs
    exact Or.inl ⟨by simp [h.noBracket.1, (hport hdenotes).1],
      by simp [h.noBracket.2, (hport hdenotes).2]⟩
  | bracketed =>
    obtain ⟨rfl, -⟩ := hs
    exact Or.inr ⟨_, [], rfl, h.noBracket, ⟨c, hc, hfilled⟩, Or.inl rfl⟩
  | bracketedPort =>
    obtain ⟨port, rfl, hdenotes⟩ := hs
    exact Or.inr ⟨_, _, rfl, h.noBracket, ⟨c, hc, hfilled⟩,
      Or.inr ⟨port, rfl, colon_not_mem hdenotes⟩⟩

theorem Shaped.splitBare_eq (h : Shaped d t e) : splitBare t d = .ok e := by
  have hne : e.host.toList ≠ [] := fun hnil => by
    have hblank : Text.blank e.host = true := by rw [Text.blank, hnil]; rfl
    rw [h.filled] at hblank
    cases hblank
  obtain ⟨s, hs, -⟩ := h.shape
  exact hs.splitBare_eq h.noBracket hne

/-- A tidy address without blanks around it is split only when it has a shape. -/
theorem shaped_of_splitBare (htrim : ∀ c ∈ t.head?, isBlank c = false) (htidy : Tidy t)
    (h : splitBare t d = .ok e) : Shaped d t e := by
  obtain ⟨body, htaken, hhost, hne⟩ := splitBare_eq_ok_iff.mp h
  have hshape {s : Shape} (hbracket : NoBracket e.host.toList) (hs : s.Writes d e t) :
      ∃! s : Shape, s.Writes d e t :=
    ⟨s, hs, fun s' hs' => (hs'.eq_of hbracket hne).trans (hs.eq_of hbracket hne).symm⟩
  have hfilled (hc : ∃ c ∈ e.host.toList, isBlank c = false) : Text.blank e.host = false := by
    simpa [Text.blank] using hc
  rcases htidy with ht | ⟨x, rest, ht, hx, hblank, hrest⟩
  · obtain ⟨hbracket, s, hs, tail, htail⟩ := htaken.writes_of_noBracket ht hhost
    obtain ⟨c, cs, hcons⟩ := List.exists_cons_of_ne_nil hne
    refine ⟨hfilled ⟨c, by simp [hcons], htrim c ?_⟩, hbracket, hshape hbracket hs⟩
    rw [← htail, hcons]
    rfl
  · obtain ⟨rfl, s, hs⟩ := htaken.writes_of_enclosed ht hx hrest hhost
    exact ⟨hfilled hblank, hx, hshape hx hs⟩

end Parts

/-! ## Splitting -/

theorem split_eq_ok_iff {address : String} {d : UInt16} {e : Endpoint} :
    split address d = .ok e ↔ splitBare (Text.trim address).toList d = .ok e := by
  unfold split
  rcases splitBare (Text.trim address).toList d with fault | e'
  · simp
  · simp

/-- **An address is split into a host and a port exactly as its shape says when its brackets stand
as they should: alone around a host that is not blank, with nothing or one colon and a port behind
them. Every address that is not split is refused by its name.** -/
theorem split_shapes (address : String) (d : UInt16) :
    (∀ e, Shaped d (Text.trim address).toList e ↔
      split address d = .ok e ∧ Tidy (Text.trim address).toList) ∧
    ((∃ e, split address d = .ok e) ∨
      ∃ fault, split address d = .error (.config (.badAddress (Text.trim address) fault))) := by
  refine ⟨fun e => ?_, ?_⟩
  · rw [split_eq_ok_iff]
    refine ⟨fun h => ⟨h.splitBare_eq, h.tidy⟩,
      fun h => shaped_of_splitBare (fun c hc => ?_) h.2 h.1⟩
    rw [Text.trim, String.toList_ofList] at hc
    exact Chars.not_isBlank_of_head? hc
  · unfold split
    rcases splitBare (Text.trim address).toList d with fault | e
    · exact Or.inr ⟨fault, rfl⟩
    · exact Or.inl ⟨e, rfl⟩

/-- An address with a host in brackets, a port and blanks around it. -/
theorem split_shapes_of_brackets :
    Text.trim " [fd00::1]:7443 " = "[fd00::1]:7443" ∧
      Shaped 6443 "[fd00::1]:7443".toList ⟨"fd00::1", 7443⟩ := by
  have htrim : Text.trim " [fd00::1]:7443 " = "[fd00::1]:7443" := by decide
  have hsplit : split " [fd00::1]:7443 " 6443 = .ok ⟨"fd00::1", 7443⟩ := by decide
  have htidy : Tidy "[fd00::1]:7443".toList :=
    Or.inr ⟨"fd00::1".toList, ":7443".toList, by decide, ⟨by decide, by decide⟩,
      ⟨'f', by decide, by decide⟩, Or.inr ⟨"7443".toList, by decide, by decide⟩⟩
  have hshaped := ((split_shapes " [fd00::1]:7443 " 6443).1 ⟨"fd00::1", 7443⟩).mpr
  rw [htrim] at hshaped
  exact ⟨htrim, hshaped ⟨hsplit, htidy⟩⟩

/-- Text after a closing bracket becomes part of the host, a closing bracket without an opening one
is dropped, and a host may be blank. -/
theorem split_untidy :
    (split "[10.0.0.1]x:80" 6443 = .ok ⟨"10.0.0.1]x", 80⟩ ∧
      ¬Shaped 6443 "[10.0.0.1]x:80".toList ⟨"10.0.0.1]x", 80⟩) ∧
    (split "10.0.0.1]:80" 6443 = .ok ⟨"10.0.0.1", 80⟩ ∧
      ¬Shaped 6443 "10.0.0.1]:80".toList ⟨"10.0.0.1", 80⟩) ∧
    (split "[ ]:80" 6443 = .ok ⟨" ", 80⟩ ∧ ¬Shaped 6443 "[ ]:80".toList ⟨" ", 80⟩) := by
  refine ⟨⟨by decide, fun h => h.noBracket.2 (by decide)⟩,
    ⟨by decide, fun h => ?_⟩, ⟨by decide, fun h => ?_⟩⟩
  · rcases h.tidy with hbracket | ⟨host, rest, heq, -⟩
    · exact hbracket.2 (by decide)
    · cases heq
  · cases h.filled

end Endpoint

end NodeBootstrap
