import Mathlib.Data.List.DropRight
import Mathlib.Data.List.Forall2
import Formulas.Proofs.Host.Change

/-! Hosts that are made, copied and changed in any order. What is found in a host is what its own
history says. Main statement: `hosts_follow_histories`. -/
namespace Formulas

namespace Effect

variable {α : Type u}

def isRemoval : Effect α → Bool
  | .remove => true
  | .keep | .declare _ => false

def declared? : Effect α → Option α
  | .declare a => some a
  | .keep | .remove => none

/-- The first declaration behind the last removal is the one that stands. -/
def standing (effects : List (Effect α)) : Option α :=
  (effects.rtakeWhile fun effect => !effect.isRemoval).findSome? declared?

/-- A declaration that finds the name free stands at once. -/
theorem standing_concat (effects : List (Effect α)) (effect : Effect α)
    (hfree : ∀ a, effect = .declare a → standing effects = none) :
    standing (effects ++ [effect]) = effect.apply (standing effects) := by
  unfold standing at hfree ⊢
  cases effect with
  | keep =>
    rw [List.rtakeWhile_concat_pos _ _ _ rfl, List.findSome?_append]
    exact Option.or_none
  | remove =>
    rw [List.rtakeWhile_concat_neg _ _ _ (by simp [isRemoval])]
    rfl
  | declare a =>
    rw [List.rtakeWhile_concat_pos _ _ _ rfl, List.findSome?_append, hfree a rfl]
    rfl

end Effect

/-- A change that a host went through, with its error if it failed. -/
structure Event where
  change : Host.Change
  error? : Option HostError

/-- What became of a change under one name, where `on` tells what it was to do there. A change that
failed did nothing. -/
def Event.effect {α : Type u} (on : Host.Change → Effect α) (event : Event) : Effect α :=
  if event.error?.isSome then .keep else on event.change

/-- Under each name is found what stands according to the history. -/
structure Host.Follows (host : Host) (history : List Event) : Prop where
  functions : ∀ name,
    host.function? name = Effect.standing (history.map (Event.effect (Change.onFunction name)))
  properties : ∀ name,
    host.property? name = Effect.standing (history.map (Event.effect (Change.onProperty name)))

namespace Host.Follows

variable {host changed : Host} {history : List Event} {c : Change}

theorem empty : Host.empty.Follows [] := ⟨fun _ => rfl, fun _ => rfl⟩

theorem succeeded (h : host.Follows history) (hchange : host.change c = .ok changed) :
    changed.Follows (history ++ [⟨c, none⟩]) := by
  refine ⟨fun name => ?_, fun name => ?_⟩
  · have hfree (f : Function) : c.onFunction name = .declare f → host.function? name = none :=
      function?_eq_none_of_change hchange
    rw [h.functions] at hfree
    rw [function?_of_change hchange, List.map_append, h.functions]
    exact (Effect.standing_concat _ _ hfree).symm
  · have hfree (p : Property) : c.onProperty name = .declare p → host.property? name = none :=
      property?_eq_none_of_change hchange
    rw [h.properties] at hfree
    rw [property?_of_change hchange, List.map_append, h.properties]
    exact (Effect.standing_concat _ _ hfree).symm

theorem failed (h : host.Follows history) (c : Change) (e : HostError) :
    host.Follows (history ++ [⟨c, some e⟩]) := by
  refine ⟨fun name => ?_, fun name => ?_⟩
  · rw [List.map_append, h.functions]
    exact (Effect.standing_concat _ .keep fun _ h => nomatch h).symm
  · rw [List.map_append, h.properties]
    exact (Effect.standing_concat _ .keep fun _ h => nomatch h).symm

/-- A standard host has gone through the declaration of the standard functions. -/
theorem standard : Host.standard.Follows [⟨.declareStandard, none⟩] := by
  have hchange : Host.empty.change .declareStandard = .ok .standard := by
    rcases Host.empty.declareStandard_cases with ⟨name, hfind, -⟩ | ⟨-, changed, hchanged, -⟩
    · cases (List.find?_some hfind : Host.empty.hasFunction name = true)
    · rw [Host.standard, hchanged]
      exact hchanged
  exact empty.succeeded hchange

end Host.Follows

namespace Hosts

/-- The error of a step, if it fails, and the hosts after it. A step that fails leaves them all as
they are. -/
def carryOut (hosts : List Host) (s : Step) : Option HostError × List Host :=
  match step hosts s with
  | .ok next => (none, next)
  | .error e => (some e, hosts)

/-- Steps one after the other with their errors, and the hosts after the last one. -/
def run (hosts : List Host) : List Step → List (Step × Option HostError) × List Host
  | [] => ([], hosts)
  | s :: steps =>
    let (error?, next) := carryOut hosts s
    let (others, last) := run next steps
    ((s, error?) :: others, last)

/-- The histories after a step. A copy starts with the history of its source, and a change belongs
to the history of its target alone. -/
def record (histories : List (List Event)) : Step × Option HostError → List (List Event)
  | (.create standard, _) => histories ++ [if standard then [⟨.declareStandard, none⟩] else []]
  | (.copy source, _) => histories ++ histories[source]?.toList
  | (.change target c, error?) => histories.modify target (· ++ [⟨c, error?⟩])

def histories (log : List (Step × Option HostError)) : List (List Event) := log.foldl record []

variable {α β : Type*} {R : α → β → Prop} {as : List α} {bs : List β}

theorem forall₂_getElem? (h : List.Forall₂ R as bs) (i : Nat) :
    List.Forall₂ R as[i]?.toList bs[i]?.toList := by
  induction h generalizing i with
  | nil => exact .nil
  | cons head _ ih =>
    cases i with
    | zero => exact .cons head .nil
    | succ i => exact ih i

theorem forall₂_modify (h : List.Forall₂ R as bs) {i : Nat} {f : α → α} {g : β → β}
    (hi : ∀ a b, as[i]? = some a → R a b → R (f a) (g b)) :
    List.Forall₂ R (as.modify i f) (bs.modify i g) := by
  induction h generalizing i with
  | nil => simp
  | cons head tail ih =>
    cases i with
    | zero => exact .cons (hi _ _ rfl head) tail
    | succ i => exact .cons head (ih hi)

variable {hosts : List Host} {recorded : List (List Event)} {target : Nat} {host : Host}

/-- A change of a host is a step of that host alone. -/
theorem carryOut_change (htarget : hosts[target]? = some host) (c : Host.Change) :
    carryOut hosts (.change target c) =
      match host.change c with
      | .ok changed => (none, hosts.set target changed)
      | .error e => (some e, hosts) := by
  rw [carryOut, step, htarget]
  dsimp only
  cases host.change c <;> rfl

theorem carryOut_change_of_none (htarget : hosts[target]? = none) (c : Host.Change) :
    carryOut hosts (.change target c) = (none, hosts) := by
  rw [carryOut, step, htarget]

theorem carryOut_follows (h : List.Forall₂ Host.Follows hosts recorded) (s : Step) :
    List.Forall₂ Host.Follows (carryOut hosts s).2
      (record recorded (s, (carryOut hosts s).1)) := by
  cases s with
  | create standard =>
    cases standard with
    | false => exact List.rel_append h (.cons .empty .nil)
    | true => exact List.rel_append h (.cons .standard .nil)
  | copy source => exact List.rel_append h (forall₂_getElem? h source)
  | change target c =>
    cases htarget : hosts[target]? with
    | none =>
      have hlength : recorded.length ≤ target := by
        rw [← h.length_eq]
        exact List.getElem?_eq_none_iff.mp htarget
      rw [carryOut_change_of_none htarget, record, List.modify_eq_self hlength]
      exact h
    | some host =>
      rw [carryOut_change htarget]
      cases hchange : host.change c with
      | ok changed =>
        dsimp only [record]
        rw [List.set_eq_modify]
        refine forall₂_modify h fun a history ha hfollows => ?_
        obtain rfl : host = a := Option.some.inj (htarget.symm.trans ha)
        exact hfollows.succeeded hchange
      | error e =>
        -- The hosts stay as they are while the history of the target grows.
        have hsame : hosts.modify target id = hosts := List.modify_id target hosts
        have hfailed := forall₂_modify (f := id) h fun a history (_ : hosts[target]? = some a)
          hfollows => hfollows.failed c e
        rwa [hsame] at hfailed

theorem run_follows (h : List.Forall₂ Host.Follows hosts recorded) (steps : List Step) :
    List.Forall₂ Host.Follows (run hosts steps).2
      ((run hosts steps).1.foldl record recorded) := by
  induction steps generalizing hosts recorded with
  | nil => exact h
  | cons s steps ih => exact ih (carryOut_follows h s)

/-- A change fails exactly when a name that it would declare is taken. Then it leaves all hosts as
they are. -/
theorem carryOut_change_error_iff (htarget : hosts[target]? = some host) (c : Host.Change) :
    ((carryOut hosts (.change target c)).1 ≠ none ↔ ∃ e, host.Clash c e) ∧
      ∀ e, (carryOut hosts (.change target c)).1 = some e →
        host.Clash c e ∧ (carryOut hosts (.change target c)).2 = hosts := by
  rw [carryOut_change htarget]
  cases hchange : host.change c with
  | ok changed =>
    exact ⟨⟨fun h => absurd rfl h, fun ⟨e, he⟩ => absurd he (Host.not_clash_of_change hchange e)⟩,
      fun e he => nomatch he⟩
  | error e =>
    have hclash : host.Clash c e := Host.clash_of_change hchange
    refine ⟨⟨fun _ => ⟨e, hclash⟩, fun _ h => nomatch h⟩, fun e' he => ?_⟩
    obtain rfl : e = e' := Option.some.inj he
    exact ⟨hclash, rfl⟩

end Hosts

open Hosts in
/-- After any steps, what is found in a host is the first declaration behind the last removal in its
own history, and a change fails exactly when a name that it would declare is taken. Functions and
properties do not meet, and the ways to ask a host for its names agree. -/
theorem hosts_follow_histories {steps : List Step} {log : List (Step × Option HostError)}
    {hosts : List Host} (hrun : run [] steps = (log, hosts)) :
    List.Forall₂ Host.Follows hosts (histories log) ∧
    ∀ target host, hosts[target]? = some host →
      (∀ c : Host.Change,
        ((carryOut hosts (.change target c)).1 ≠ none ↔ ∃ e, host.Clash c e) ∧
        (∀ e, (carryOut hosts (.change target c)).1 = some e →
          host.Clash c e ∧ (carryOut hosts (.change target c)).2 = hosts) ∧
        ∀ changed, host.change c = .ok changed →
          (c.OfFunctions → changed.properties = host.properties) ∧
            (¬ c.OfFunctions → changed.functions = host.functions)) ∧
      (∀ name, host.hasFunction name = (host.function? name).isSome ∧
        (name ∈ host.functionNames ↔ host.hasFunction name = true)) ∧
      host.functionNames.Pairwise (·.toList < ·.toList) := by
  have hfollows := run_follows .nil steps
  rw [hrun] at hfollows
  refine ⟨hfollows, fun target host htarget => ⟨fun c => ?_, fun name => ?_, ?_⟩⟩
  · obtain ⟨hfails, herror⟩ := carryOut_change_error_iff htarget c
    exact ⟨hfails, herror, fun changed hchange =>
      ⟨Host.properties_of_change hchange, Host.functions_of_change hchange⟩⟩
  · exact ⟨rfl, Dictionary.mem_names_iff host.functions name⟩
  · exact host.functions.keys.increasing.imp String.lt_iff.mp

open Hosts in
/-- A function that is removed from a host stays in its copy, where its name is still taken. -/
theorem copy_outlives_removal :
    run [] [.create false, .change 0 (.declareFunction "f" fun _ => .ok .null), .copy 0,
        .change 0 (.removeFunction "f")] =
      ([(.create false, none), (.change 0 (.declareFunction "f" fun _ => .ok .null), none),
          (.copy 0, none), (.change 0 (.removeFunction "f"), none)],
        [Host.empty.after [.declareFunction "f" fun _ => .ok .null, .removeFunction "f"],
          Host.empty.after [.declareFunction "f" fun _ => .ok .null]]) ∧
    (carryOut [Host.empty.after [.declareFunction "f" fun _ => .ok .null, .removeFunction "f"],
        Host.empty.after [.declareFunction "f" fun _ => .ok .null]]
      (.change 1 (.declareFunction "f" fun _ => .ok .undefined))).1 ≠ none := by
  have hrun : run [] [.create false, .change 0 (.declareFunction "f" fun _ => .ok .null), .copy 0,
        .change 0 (.removeFunction "f")] =
      ([(.create false, none), (.change 0 (.declareFunction "f" fun _ => .ok .null), none),
          (.copy 0, none), (.change 0 (.removeFunction "f"), none)],
        [Host.empty.after [.declareFunction "f" fun _ => .ok .null, .removeFunction "f"],
          Host.empty.after [.declareFunction "f" fun _ => .ok .null]]) := rfl
  obtain ⟨hfails, -⟩ := ((hosts_follow_histories hrun).2 1 _ rfl).1
    (.declareFunction "f" fun _ => .ok .undefined)
  exact ⟨hrun, hfails.mpr ⟨.functionDeclared "f", .function rfl rfl⟩⟩

end Formulas
