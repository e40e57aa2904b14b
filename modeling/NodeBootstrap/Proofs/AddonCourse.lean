import NodeBootstrap.Proofs.Errands
import NodeBootstrap.Proofs.PrivateFiles
import NodeBootstrap.Proofs.Substitution
import Mathlib.Data.List.Forall2

/-!
# Add-ons one after the other

A node that is up gets its add-ons in order, up to the first that fails.

* `Node.Applied`, `Node.Fails`: the one way in which an add-on is applied and the three in which it
  fails, with the session that is left;
* `Node.exec_applyAddon`: an add-on is applied or fails;
* `Node.Course`, `Node.exec_applyAddons`: add-ons are all applied, or they are up to one that fails;
* `Node.Course.calls`: what has been run, and what the commands have found;
* **`Node.install_applies_in_order`**: what the installation of a node does with its add-ons.
-/

namespace NodeBootstrap.Node

variable {n : Node} {x : Executor} {values : List (String × Template.Value)} {a : Addon}
  {addons : List Addon} {s t u : Session} {e : Failure}

/-- The command that applies an add-on. -/
def applies (n : Node) (a : Addon) : Command := n.kubectl.apply (a.targetPath n.addonDir)

/-- An add-on is rendered, written and applied. -/
inductive Applied (n : Node) (x : Executor) (values : List (String × Template.Value)) (a : Addon)
    (s : Session) : Session → Prop
  | intro {text : String} {tree : FileTree} {output : Output}
      (hrender : a.render values = .ok text)
      (hwrite : (PrivateFile.write (a.targetPath n.addonDir) text).exec s.tree = (.ok (), tree))
      (hanswer : x s.commands (n.applies a) = .ok output) :
      Applied n x values a s (({ s with tree }).called (n.applies a))

/-- An add-on is not rendered, not written or not applied. -/
inductive Fails (n : Node) (x : Executor) (values : List (String × Template.Value)) (a : Addon)
    (s : Session) (e : Failure) : Session → Prop
  | unrendered (hrender : a.render values = .error e) : Fails n x values a s e s
  | unwritten {text : String} {tree : FileTree} (hrender : a.render values = .ok text)
      (hwrite : (PrivateFile.write (a.targetPath n.addonDir) text).exec s.tree = (.error e, tree)) :
      Fails n x values a s e { s with tree }
  | unapplied {text : String} {tree : FileTree} (hrender : a.render values = .ok text)
      (hwrite : (PrivateFile.write (a.targetPath n.addonDir) text).exec s.tree = (.ok (), tree))
      (hanswer : x s.commands (n.applies a) = .error e) :
      Fails n x values a s e (({ s with tree }).called (n.applies a))

/-- Add-ons are applied one after the other. -/
inductive Course (n : Node) (x : Executor) (values : List (String × Template.Value)) :
    List Addon → Session → Session → Prop
  | done (s : Session) : Course n x values [] s s
  | next {a : Addon} {addons : List Addon} {s t u : Session} (h : n.Applied x values a s t)
      (hrest : Course n x values addons t u) : Course n x values (a :: addons) s u

/-! ## One add-on -/

/-- An add-on is applied or fails. -/
theorem exec_applyAddon (n : Node) (x : Executor) (values : List (String × Template.Value))
    (a : Addon) (s : Session) :
    match (n.applyAddon x values a).exec s with
    | (.ok (), t) => n.Applied x values a s t
    | (.error e, t) => n.Fails x values a s e t := by
  rw [applyAddon]
  rcases hrender : a.render values with e | text
  · exact .unrendered hrender
  rw [Act.ofExcept_ok_bind, Act.exec_bind, Session.exec_onFiles]
  rcases hwrite : (PrivateFile.write (a.targetPath n.addonDir) text).exec s.tree with ⟨e | _, tree⟩
  · exact .unwritten hrender hwrite
  have hperform : (perform x (n.applies a)).exec { s with tree } = _ :=
    Errand.exec_perform x (n.applies a) { s with tree }
  change match (perform x (n.applies a)).exec { s with tree } with
    | (.ok (), t) => n.Applied x values a s t
    | (.error e, t) => n.Fails x values a s e t
  rw [hperform]
  rcases hanswer : x s.commands (n.applies a) with e | output
  · have hcommands : x (Session.commands { s with tree }) (n.applies a) = .error e := hanswer
    rw [hcommands]
    exact .unapplied hrender hwrite hanswer
  · have hcommands : x (Session.commands { s with tree }) (n.applies a) = .ok output := hanswer
    rw [hcommands]
    exact .intro hrender hwrite hanswer

theorem Applied.commands (h : n.Applied x values a s t) :
    t.commands = s.commands ++ [n.applies a] := by
  cases h
  exact Session.commands_called _ _

/-! ## All of them -/

/-- **Add-ons are all applied, or they are up to one that fails.** -/
theorem exec_applyAddons (n : Node) (x : Executor) (values : List (String × Template.Value))
    (addons : List Addon) (s : Session) :
    match (n.applyAddons x values addons).exec s with
    | (.ok (), u) => n.Course x values addons s u
    | (.error e, u) => ∃ front a back t, addons = front ++ a :: back ∧
        n.Course x values front s t ∧ n.Fails x values a t e u := by
  induction addons generalizing s with
  | nil => exact .done s
  | cons a as ih =>
    have hstep := exec_applyAddon n x values a s
    rw [applyAddons, Act.exec_bind]
    rcases hexec : (n.applyAddon x values a).exec s with ⟨e | _, t⟩
    · rw [hexec] at hstep
      exact ⟨[], a, as, s, rfl, .done s, hstep⟩
    · rw [hexec] at hstep
      have hrest := ih t
      dsimp only at hstep ⊢
      rcases hexec' : (n.applyAddons x values as).exec t with ⟨e | _, u⟩
      · rw [hexec'] at hrest
        obtain ⟨front, b, back, t', rfl, hfront, hfails⟩ := hrest
        exact ⟨a :: front, b, back, t', rfl, .next hstep hfront, hfails⟩
      · rw [hexec'] at hrest
        exact .next hstep hrest

/-- A command that applies an add-on and finds the manifest of the add-on written. -/
def FindsManifest (n : Node) (values : List (String × Template.Value)) (a : Addon) (c : Call) :
    Prop :=
  c.command = n.applies a ∧ ∃ text, a.render values = .ok text ∧
    c.tree.entry? (a.targetPath n.addonDir) = some (.file PrivateFile.fileMode (.text text))

/-- What add-ons that are applied one after the other have run. -/
theorem Course.calls (h : n.Course x values addons s u) : ∃ calls : List Call,
    u.calls = s.calls ++ calls ∧ List.Forall₂ (n.FindsManifest values) addons calls ∧
      u.tree = (calls.getLast?.map Call.tree).getD s.tree := by
  induction h with
  | done s => exact ⟨[], by simp, .nil, rfl⟩
  | @next a as s t u happlied _ ih =>
    obtain ⟨calls, hcalls, hfinds, htree⟩ := ih
    cases happlied with
    | @intro text tree output hrender hwrite hanswer =>
      refine ⟨⟨n.applies a, tree⟩ :: calls, ?_, .cons ⟨rfl, text, hrender, ?_⟩ hfinds, ?_⟩
      · rw [hcalls, Session.calls_called, List.append_assoc]
        rfl
      · exact PrivateFile.entry?_write hwrite
      · rw [htree, List.getLast?_cons]
        rcases calls.getLast? with _ | c
        · rfl
        · rfl

theorem Course.commands (h : n.Course x values addons s u) :
    u.commands = s.commands ++ addons.map n.applies := by
  induction h with
  | done s => simp
  | next happlied _ ih =>
    rw [ih, happlied.commands, List.append_assoc]
    rfl

/-- The commands that apply some add-ons, one after the other, are all answered with success. -/
def Answered (n : Node) (x : Executor) (past : List Command) (addons : List Addon) : Prop :=
  ∀ front a back, addons = front ++ a :: back →
    ∃ output, x (past ++ front.map n.applies) (n.applies a) = .ok output

theorem Course.answered (h : n.Course x values addons s u) : n.Answered x s.commands addons := by
  intro front a back haddons
  induction h generalizing front with
  | done s => simp at haddons
  | @next b as s t u happlied _ ih =>
    rcases front with _ | ⟨c, front⟩
    · obtain ⟨rfl, rfl⟩ := List.cons.inj haddons
      cases happlied with
      | intro hrender hwrite hanswer => exact ⟨_, by simpa using hanswer⟩
    · obtain ⟨rfl, rfl⟩ := List.cons.inj haddons
      obtain ⟨output, houtput⟩ := ih front rfl
      rw [happlied.commands, List.append_assoc] at houtput
      exact ⟨output, houtput⟩

/-- **Add-ons are applied in order, up to the first that fails.** Once a node is up, all that is run
are the commands that apply its add-ons, one after the other, and each of them finds the manifest of
its add-on under the name of the add-on, for its owner only. The manifest is the template with the
settings of the cluster in it. The first add-on that is not rendered, not written or not applied
ends it, and its failure is returned; only one that is not applied has its command run. -/
theorem install_applies_in_order (n : Node) (x : Executor) (v : Version) (p : Parameters)
    (addons : List Addon) (s : Session) :
    let given (setting : Option String) (default : String) : String :=
      (setting.filter fun t => !Text.blank t).getD default
    let context : List (String × String) :=
      [("kubernetes_version", v.tag), ("cluster_name", given p.clusterName "kubernetes"),
       ("advertise_address", p.advertiseAddress), ("pod_subnet", given p.networking.podSubnet ""),
       ("service_subnet", given p.networking.serviceSubnet "10.96.0.0/12"),
       ("dns_domain", given p.networking.dnsDomain "cluster.local"),
       ("image_repository", given p.imageRepository ""),
       ("cloud_provider", (Text.nonBlank p.cloudProvider).getD "")]
    let manifest (a : Addon) : Except Failure String :=
      a.render (context.map fun (name, text) => (name, .plain text))
    let path (a : Addon) : OsText := Path.join n.addonDir a.name
    let apply (a : Addon) : Command := { program := n.kubectl.program
                                         arguments := ["apply", "-f", (path a).shown]
                                         environment := [("KUBECONFIG", n.kubectl.kubeconfig)] }
    let run := (n.install x v p addons).exec s
    (∀ a : Addon, a.Substituted context (manifest a)) ∧
    match (do
        n.compensated x p (n.enter x (initRendering v p) (n.kubeadm.init n.configPath))
        n.startAgent x : Act Session Unit).exec s with
    | (.error e, t) => run = (.error e, t)
    | (.ok (), t) => ∃ (tried : List Addon) (calls : List Call),
        tried <+: addons ∧ run.2.calls = t.calls ++ calls ∧
        List.Forall₂ (fun a c => c.command = apply a ∧ ∃ text, manifest a = .ok text ∧
          c.tree.entry? (path a) = some (.file 0o600 (.text text))) tried calls ∧
        let before := (calls.getLast?.map Call.tree).getD t.tree
        match run.1 with
        | .ok () => tried = addons ∧ n.Answered x t.commands addons
        | .error e => ∃ done a rest, addons = done ++ a :: rest ∧ n.Answered x t.commands done ∧
          (tried = done ∧ manifest a = .error e ∧ run.2.tree = before ∨
            (∃ text, tried = done ∧ manifest a = .ok text ∧
              (PrivateFile.write (path a) text).exec before = (.error e, run.2.tree)) ∨
            tried = done ++ [a] ∧ x (t.commands ++ done.map apply) (apply a) = .error e) := by
  intro given context manifest path apply run
  refine ⟨fun a => a.substituted_render v p, ?_⟩
  let values := Addon.values v p
  have hrun : run = (do
      (do
        n.compensated x p (n.enter x (initRendering v p) (n.kubeadm.init n.configPath))
        n.startAgent x : Act Session Unit)
      n.applyAddons x values addons : Act Session Unit).exec s := by
    rw [bind_assoc]
    rfl
  rw [Act.exec_bind] at hrun
  split
  · rename_i e t hup
    rw [hup] at hrun
    exact hrun
  rename_i t hup
  rw [hup] at hrun
  have hcases := exec_applyAddons n x values addons t
  dsimp only at hrun
  rw [← hrun] at hcases
  rcases hout : run with ⟨e | _, u⟩
  · rw [hout] at hcases
    obtain ⟨done, a, rest, w, rfl, hcourse, hfails⟩ := hcases
    obtain ⟨calls, hcalls, hfinds, htree⟩ := hcourse.calls
    cases hfails with
    | unrendered hrender =>
      exact ⟨done, calls, List.prefix_append _ _, hcalls, hfinds, done, a, rest, rfl,
        hcourse.answered, Or.inl ⟨rfl, hrender, htree⟩⟩
    | @unwritten text tree hrender hwrite =>
      rw [htree] at hwrite
      exact ⟨done, calls, List.prefix_append _ _, hcalls, hfinds, done, a, rest, rfl,
        hcourse.answered, Or.inr (Or.inl ⟨text, rfl, hrender, hwrite⟩)⟩
    | @unapplied text tree hrender hwrite hanswer =>
      rw [hcourse.commands] at hanswer
      have hfound : n.FindsManifest values a ⟨apply a, tree⟩ :=
        ⟨rfl, text, hrender, PrivateFile.entry?_write hwrite⟩
      refine ⟨done ++ [a], calls ++ [⟨apply a, tree⟩], ?_, ?_,
        List.rel_append hfinds (.cons hfound .nil), done, a, rest, rfl, hcourse.answered,
        Or.inr (Or.inr ⟨rfl, hanswer⟩)⟩
      · exact ⟨rest, by simp⟩
      · rw [Session.calls_called, hcalls, List.append_assoc]
        rfl
  · rw [hout] at hcases
    obtain ⟨calls, hcalls, hfinds, -⟩ := hcases.calls
    exact ⟨addons, calls, List.prefix_refl _, hcalls, hfinds, rfl, hcases.answered⟩

end NodeBootstrap.Node
