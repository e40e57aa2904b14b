import NodeBootstrap.Addon.Render
import NodeBootstrap.Proofs.Placeholders
import Mathlib.Data.List.Nodup

/-!
# Manifests by substitution

A template with nothing but placeholders in it is rendered by putting the values of a cluster in
their places. The name of the add-on says in which language it is written: in a markup language the
values are escaped.

* `Expr.constants`, `globals`: words that are defined in every template;
* `Form.renderAll_statements`, `Form.exists_renderAll_error`: the statements of a form print the
  values of its names, or fail for want of one;
* `Markup.escape_eq_self`: what is not changed where it is escaped;
* `Addon.Substituted`, `Addon.substituted_render`: what is to become of such an add-on;
* **`Addon.render_substitutes`**: what the manifest of such an add-on is;
* **`Addon.render_escapes`**: a name for which it is not what the template says.
-/

namespace NodeBootstrap

namespace Template

/-- Words that stand for a value of their own. -/
def Expr.constants : List String := ["true", "True", "false", "False", "none", "None"]

/-- Names that are bound in every template. -/
def globals : List String := ["range", "dict", "debug", "namespace"]

/-! ## Words -/

namespace Expr

variable {x : String} {scopes : Scopes}

theorem ofWord_eq_name (h : x ∉ constants) : ofWord x = name x := by
  unfold ofWord
  split
  all_goals first | rfl | exact absurd (by decide) h

theorem eval_ofWord (h : x ∉ constants) (scopes : Scopes) :
    (ofWord x).eval scopes = .ok (scopes.find x) := by
  rw [ofWord_eq_name h, eval]

theorem exists_eval_ofWord (x : String) (scopes : Scopes) :
    ∃ v, (ofWord x).eval scopes = .ok v := by
  by_cases h : x ∈ constants
  · simp only [constants, List.mem_cons, List.not_mem_nil, or_false] at h
    rcases h with rfl | rfl | rfl | rfl | rfl | rfl
    all_goals exact ⟨_, rfl⟩
  · exact ⟨_, eval_ofWord h scopes⟩

end Expr

/-! ## Markup -/

namespace Markup

/-- The characters that have a meaning in a markup language. -/
def signs : List Char := ['&', '<', '>', '"', '\'', '/']

theorem escapeChar_of_not_mem {c : Char} (h : c ∉ signs) : escapeChar c = [c] := by
  unfold escapeChar
  split
  all_goals first | rfl | exact absurd (by decide) h

theorem length_escapeChar {c : Char} (h : c ∈ signs) : 1 < (escapeChar c).length := by
  simp only [signs, List.mem_cons, List.not_mem_nil, or_false] at h
  rcases h with rfl | rfl | rfl | rfl | rfl | rfl
  all_goals decide

theorem length_escape (s : String) : s.length ≤ (escape s).length ∧
    ((escape s).length = s.length → ∀ c ∈ s.toList, c ∉ signs) := by
  rw [escape, String.length_ofList, ← String.length_toList]
  induction s.toList with
  | nil => simp
  | cons c cs ih =>
    obtain ⟨hle, heq⟩ := ih
    rw [List.flatMap_cons, List.length_append, List.length_cons]
    by_cases hc : c ∈ signs
    · have := length_escapeChar hc
      exact ⟨by omega, fun h => by omega⟩
    · rw [escapeChar_of_not_mem hc, List.length_singleton]
      refine ⟨by omega, fun h => List.forall_mem_cons.mpr ⟨hc, heq (by omega)⟩⟩

/-- A text is escaped as it is when no character of it has a meaning. -/
theorem escape_eq_self {s : String} (h : ∀ c ∈ s.toList, c ∉ signs) : escape s = s := by
  rw [escape]
  refine String.toList_inj.mp ?_
  rw [String.toList_ofList]
  generalize s.toList = cs at h ⊢
  induction cs with
  | nil => rfl
  | cons c cs ih =>
    rw [List.forall_mem_cons] at h
    rw [List.flatMap_cons, escapeChar_of_not_mem h.1, ih h.2]
    rfl

/-- A value as it is printed, escaped in a markup language. -/
def printed (markup : Bool) (s : String) : String := if markup then escape s else s

theorem length_le_printed (markup : Bool) (s : String) : s.length ≤ (printed markup s).length := by
  cases markup with
  | false => exact Nat.le_refl _
  | true => exact (length_escape s).1

theorem printed_eq_self {markup : Bool} {s : String}
    (h : markup = true → ∀ c ∈ s.toList, c ∉ signs) : printed markup s = s := by
  cases markup with
  | false => rfl
  | true => exact escape_eq_self (h rfl)

theorem not_mem_of_length_printed {markup : Bool} {s : String}
    (h : (printed markup s).length = s.length) (hmarkup : markup = true) :
    ∀ c ∈ s.toList, c ∉ signs := by
  subst hmarkup
  exact (length_escape s).2 h

end Markup

/-! ## Statements -/

namespace Form

variable {f : Form} {markup : Bool} {scopes : Scopes} {value : String → String}

/-- The statements of a form print its texts, and between them the values of its names. -/
theorem renderAll_statements (markup : Bool)
    (h : ∀ x ∈ f.names, x ∉ Expr.constants ∧ scopes.find x = .plain (value x)) :
    Node.renderAll markup f.statements scopes =
      .ok (f.filled fun x => Markup.printed markup (value x), scopes) := by
  induction f with
  | text s => simp [statements, Node.renderAll, Node.render, filled, bind, Except.bind, pure,
      Except.pure]
  | place s x rest ih =>
    obtain ⟨hx, hfind⟩ := h x (by simp [names])
    have hrest := ih fun y hy => h y (List.mem_cons_of_mem _ hy)
    have hprinted : Node.printed markup (.plain (value x)) =
        .ok (Markup.printed markup (value x)) := rfl
    simp only [statements, Node.renderAll, Node.render, Expr.eval_ofWord hx, hfind, hprinted, hrest,
      bind, Except.bind, pure, Except.pure]
    simp [filled, String.append_assoc]

/-- The statements of a form fail when one of its names has no value. -/
theorem exists_renderAll_error (markup : Bool)
    (h : ∃ x ∈ f.names, x ∉ Expr.constants ∧ scopes.find x = .undefined false) :
    ∃ fault, Node.renderAll markup f.statements scopes = .error fault := by
  induction f with
  | text s =>
    obtain ⟨x, hx, -⟩ := h
    simp [names] at hx
  | place s y rest ih =>
    obtain ⟨v, hv⟩ := Expr.exists_eval_ofWord y scopes
    rcases hprinted : Node.printed markup v with fault | t
    · exact ⟨fault, by simp [statements, Node.renderAll, Node.render, hv, hprinted, bind,
        Except.bind]⟩
    · have hrest : ∃ x ∈ rest.names, x ∉ Expr.constants ∧ scopes.find x = .undefined false := by
        obtain ⟨x, hx, hword, hfind⟩ := h
        rcases List.mem_cons.mp hx with rfl | hx
        · rw [Expr.eval_ofWord hword, hfind] at hv
          cases hv
          cases hprinted
        · exact ⟨x, hx, hword, hfind⟩
      obtain ⟨fault, hfault⟩ := ih hrest
      exact ⟨fault, by simp [statements, Node.renderAll, Node.render, hv, hprinted, hfault, bind,
        Except.bind, pure, Except.pure]⟩

theorem length_filled_le {g : String → String} (h : ∀ x, (value x).length ≤ (g x).length)
    (f : Form) : (f.filled value).length ≤ (f.filled g).length := by
  induction f with
  | text s => exact Nat.le_refl _
  | place s x rest ih =>
    have hx := h x
    simp only [filled, String.length_append]
    omega

/-- Texts that are only longer than others fill a form in the same way when they have the same
length. -/
theorem length_eq_of_filled_eq {g : String → String} (h : ∀ x, (value x).length ≤ (g x).length)
    (heq : f.filled g = f.filled value) : ∀ x ∈ f.names, (g x).length = (value x).length := by
  induction f with
  | text s => simp [names]
  | place s x rest ih =>
    have hx := h x
    have hrest := length_filled_le h rest
    have hlength := congrArg String.length heq
    simp only [filled, String.length_append] at hlength
    have hsame : rest.filled g = rest.filled value := by
      have hchars := congrArg String.toList heq
      simp only [filled, String.toList_append] at hchars
      refine String.toList_inj.mp (List.append_inj' hchars ?_).2
      rw [String.length_toList, String.length_toList]
      omega
    intro y hy
    rcases List.mem_cons.mp hy with rfl | hy
    · omega
    · exact ih hsame y hy

theorem filled_congr {g : String → String} (h : ∀ x ∈ f.names, g x = value x) :
    f.filled g = f.filled value := by
  induction f with
  | text s => rfl
  | place s x rest ih =>
    rw [filled, filled, h x (by simp [names]), ih fun y hy => h y (List.mem_cons_of_mem _ hy)]

/-- A form is filled as with the values themselves when none of them is escaped. -/
theorem filled_printed_eq_iff : f.filled (fun x => Markup.printed markup (value x)) =
    f.filled value ↔ (markup = true → ∀ x ∈ f.names, ∀ c ∈ (value x).toList, c ∉ Markup.signs) := by
  constructor
  · intro heq hmarkup x hx
    have hlength := length_eq_of_filled_eq (fun x => Markup.length_le_printed markup (value x))
      heq x hx
    exact Markup.not_mem_of_length_printed hlength hmarkup
  · intro h
    exact filled_congr fun x hx => Markup.printed_eq_self fun hmarkup => h hmarkup x hx

end Form

end Template

namespace Addon

open Template

variable {v : Version} {p : Parameters} {x s : String} {f : Form}

/-! ## Manifests -/

/-- The settings that templates may refer to are no words with a value of their own. -/
theorem not_mem_constants (h : (x, s) ∈ settings v p) : x ∉ Expr.constants := by
  simp only [settings, List.mem_cons, List.not_mem_nil, or_false, Prod.mk.injEq] at h
  rcases h with h | h | h | h | h | h | h | h
  all_goals
    rw [h.1]
    decide

theorem find_values (h : (x, s) ∈ settings v p) : Scopes.find [values v p] x = .plain s := by
  simp only [settings, List.mem_cons, List.not_mem_nil, or_false, Prod.mk.injEq] at h
  rcases h with h | h | h | h | h | h | h | h
  all_goals
    obtain ⟨rfl, rfl⟩ := h
    rfl

theorem find_values_of_not_mem (h : x ∉ (settings v p).map (·.1)) :
    Scopes.find [values v p] x = .undefined false := by
  have hnone : [values v p].flatten.find? (fun b => b.1 == x) = none := by
    rw [List.find?_eq_none]
    intro b hb heq
    simp only [List.flatten_cons, List.flatten_nil, List.append_nil, values, List.mem_map] at hb
    obtain ⟨c, hc, rfl⟩ := hb
    exact h (List.mem_map.mpr ⟨c, hc, by simpa using heq⟩)
  rw [Scopes.find, hnone]
  rfl

/-- The manifest of a plain form. -/
theorem render_source (name : String) (hf : f.Plain) (values : List (String × Value)) :
    render ⟨name, f.source⟩ values = if "not" ∈ f.names then .error (.template .malformed)
      else ((Node.renderAll (Markup.isName name) f.statements [values]).map (·.1)).mapError
        .template := by
  rw [render, Template.render, Form.ofText_source hf]
  by_cases hnot : "not" ∈ f.names
  · rw [if_pos hnot, if_pos hnot]
    rfl
  · rw [if_neg hnot, if_neg hnot]

/-- The settings of the cluster in place of the names are the manifest of a plain form. -/
theorem render_filled (name : String) (hf : f.Plain) {value : String → String}
    (hvalue : ∀ x ∈ f.names, (x, value x) ∈ settings v p) :
    render ⟨name, f.source⟩ (values v p) = .ok (f.filled fun x =>
      Markup.printed (Markup.isName name) (value x)) := by
  have hnot : "not" ∉ f.names := fun hmem => by
    have hsetting := List.mem_map_of_mem (f := Prod.fst) (hvalue "not" hmem)
    exact absurd hsetting (by simp [settings])
  have hall := Form.renderAll_statements (Markup.isName name) fun x hx =>
    ⟨not_mem_constants (hvalue x hx), find_values (hvalue x hx)⟩
  rw [render_source name hf, if_neg hnot, hall]
  rfl

/-- A plain form with a name that is not defined has no manifest. -/
theorem exists_render_error (name : String) (hf : f.Plain) (v : Version) (p : Parameters)
    (h : ∃ x ∈ f.names, x ∉ (settings v p).map (·.1) ∧ x ∉ Expr.constants) :
    ∃ fault, render ⟨name, f.source⟩ (values v p) = .error (.template fault) := by
  obtain ⟨x, hx, hsetting, hword⟩ := h
  rw [render_source name hf]
  by_cases hnot : "not" ∈ f.names
  · rw [if_pos hnot]
    exact ⟨.malformed, rfl⟩
  · obtain ⟨fault, hfault⟩ := Form.exists_renderAll_error (Markup.isName name)
      ⟨x, hx, hword, find_values_of_not_mem hsetting⟩
    rw [if_neg hnot, hfault]
    exact ⟨fault, rfl⟩

/-- What is to become of an add-on whose template has nothing but placeholders in it: its names are
replaced by what a context has for them, escaped in a markup language, and it fails for want of a
name. -/
structure Substituted (context : List (String × String)) (a : Addon)
    (result : Except Failure String) : Prop where
  filled : ∀ f : Form, f.Plain → a.template = f.source → ∀ value : String → String,
    (∀ x ∈ f.names, (x, value x) ∈ context) → result = .ok (f.filled fun x =>
      if Markup.isName a.name then Markup.escape (value x) else value x)
  unknown : ∀ f : Form, f.Plain → a.template = f.source →
    (∃ x ∈ f.names, x ∉ context.map (·.1) ∧ x ∉ Expr.constants ∧ x ∉ globals) →
      ∃ fault, result = .error (.template fault)

/-- Such an add-on is rendered by substitution. -/
theorem substituted_render (a : Addon) (v : Version) (p : Parameters) :
    a.Substituted (settings v p) (a.render (values v p)) := by
  obtain ⟨name, template⟩ := a
  refine ⟨?_, ?_⟩
  · rintro f hf rfl value hvalue
    exact render_filled name hf hvalue
  · rintro f hf rfl ⟨x, hx, hsetting, hword, -⟩
    exact exists_render_error name hf v p ⟨x, hx, hsetting, hword⟩

/-- **A manifest is its template with the values of the cluster in place of the names**, as they are
unless the name of the add-on says that it is in a markup language. There they are escaped, so that
the manifest is what the template says exactly when no value has a character with a meaning in it.
A name that is neither one of the cluster's nor defined in every template is a failure. -/
theorem render_substitutes (name : String) (hf : f.Plain) (v : Version) (p : Parameters) :
    (∀ value : String → String, (∀ x ∈ f.names, (x, value x) ∈ settings v p) →
      render ⟨name, f.source⟩ (values v p) = .ok (f.filled fun x =>
        if Markup.isName name then Markup.escape (value x) else value x) ∧
      (render ⟨name, f.source⟩ (values v p) = .ok (f.filled value) ↔
        (Markup.isName name = true → ∀ x ∈ f.names, ∀ c ∈ (value x).toList, c ∉ Markup.signs))) ∧
    ((∃ x ∈ f.names, x ∉ (settings v p).map (·.1) ∧ x ∉ Expr.constants ∧ x ∉ globals) →
      ∃ fault, render ⟨name, f.source⟩ (values v p) = .error (.template fault)) := by
  constructor
  · intro value hvalue
    have hmanifest := render_filled name hf hvalue
    refine ⟨hmanifest, ?_⟩
    rw [hmanifest, Except.ok.injEq]
    exact Form.filled_printed_eq_iff
  · rintro ⟨x, hx, hsetting, hword, -⟩
    exact exists_render_error name hf v p ⟨x, hx, hsetting, hword⟩

/-- A page with the name of the cluster and its addresses, and one with a name that no cluster
has. -/
theorem render_substitutes_of_page :
    let p : Parameters :=
      { advertiseAddress := "10.0.0.5"
        clusterName := some "a<b>"
        networking := { podSubnet := some "10.244.0.0/16" } }
    let f : Form := .place "<p>\x7d" "cluster_name" (.place " " "pod_subnet" (.text "</p>\n"))
    let value (x : String) : String := if x = "cluster_name" then "a<b>" else "10.244.0.0/16"
    let g : Form := .place "" "cluster_name" (.place ": " "not_a_field" (.text ""))
    (f.Plain ∧ (∀ x ∈ f.names, (x, value x) ∈ settings ⟨1, 16, 3⟩ p) ∧
      render ⟨"page.html.j2", f.source⟩ (values ⟨1, 16, 3⟩ p) =
        .ok "<p>\x7da&lt;b&gt; 10.244.0.0&#x2f;16</p>\n" ∧
      render ⟨"page.yaml", f.source⟩ (values ⟨1, 16, 3⟩ p) =
        .ok "<p>\x7da<b> 10.244.0.0/16</p>\n") ∧
      g.Plain ∧ ("not_a_field" ∈ g.names ∧ "not_a_field" ∉ (settings ⟨1, 16, 3⟩ p).map (·.1) ∧
        "not_a_field" ∉ Expr.constants ∧ "not_a_field" ∉ globals) ∧
      ∃ fault, render ⟨"page.yaml", g.source⟩ (values ⟨1, 16, 3⟩ p) = .error (.template fault) := by
  intro p f value g
  have hword : ∀ x ∈ ["cluster_name", "pod_subnet", "not_a_field"], IsWord x := by
    intro x hx
    simp only [List.mem_cons, List.not_mem_nil, or_false] at hx
    rcases hx with rfl | rfl | rfl
    all_goals exact ⟨_, _, rfl, by decide, List.all_eq_true.mp (by decide)⟩
  have hf : f.Plain := ⟨by decide, fun x hx => hword x ((by decide : f.names ⊆ _) hx)⟩
  have hg : g.Plain := ⟨by decide, fun x hx => hword x ((by decide : g.names ⊆ _) hx)⟩
  have hvalue : ∀ x ∈ f.names, (x, value x) ∈ settings ⟨1, 16, 3⟩ p := by decide
  have hunknown : "not_a_field" ∈ g.names ∧ "not_a_field" ∉ (settings ⟨1, 16, 3⟩ p).map (·.1) ∧
      "not_a_field" ∉ Expr.constants ∧ "not_a_field" ∉ globals := by decide
  refine ⟨⟨hf, hvalue, ?_, ?_⟩, hg, hunknown,
    (render_substitutes "page.yaml" hg _ _).2 ⟨_, hunknown⟩⟩
  · rw [((render_substitutes "page.html.j2" hf _ _).1 value hvalue).1]
    decide +kernel
  · rw [((render_substitutes "page.yaml" hf _ _).1 value hvalue).1]
    decide +kernel

/-- The addresses of a cluster are not printed as they are in a manifest whose name is that of a
page. -/
theorem render_escapes :
    let p : Parameters :=
      { advertiseAddress := "10.0.0.5", networking := { podSubnet := some "10.244.0.0/16" } }
    ("pod_subnet", "10.244.0.0/16") ∈ settings ⟨1, 16, 0⟩ p ∧
      render ⟨"page.yaml", "\x7b\x7b pod_subnet \x7d\x7d"⟩ (values ⟨1, 16, 0⟩ p) =
        .ok "10.244.0.0/16" ∧
      render ⟨"page.html", "\x7b\x7b pod_subnet \x7d\x7d"⟩ (values ⟨1, 16, 0⟩ p) =
        .ok "10.244.0.0&#x2f;16" := by
  intro p
  decide +kernel

end Addon

end NodeBootstrap
