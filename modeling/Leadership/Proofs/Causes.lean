import Leadership.Fault

set_option autoImplicit false

namespace Leadership
namespace Fault

/-- What can stand in a chain: a fault, an error from outside, or an error that a callback returned, with the
contexts that are around it, the outermost first. -/
inductive Cause where
  | fault (f : Fault)
  | outside (text : String)
  | returned (contexts : List String) (root : String)

namespace Cause

def text : Cause → String
  | .fault f => f.message
  | .outside text => text
  | .returned contexts root => contexts.headD root

def next? : Cause → Option Cause
  | .fault (.fatal f) => some (.fault f)
  | .fault (.callback _ root contexts) => some (.returned contexts.reverse root)
  | .fault (.configParse detail) | .fault (.io detail) => some (.outside detail)
  | .returned (_ :: contexts) root => some (.returned contexts root)
  | .fault _ | .outside _ | .returned [] _ => none

end Cause

/-- `Chain c cs`: behind `c` there are `cs`, the nearest first, and behind the last of them there is nothing. -/
inductive Chain : Cause → List Cause → Prop
  | root {c : Cause} (last : c.next? = none) : Chain c []
  | link {c d : Cause} {ds : List Cause} (next : c.next? = some d) (rest : Chain d ds) : Chain c (d :: ds)

def peeled (root : String) : List String → List Cause
  | [] => []
  | _ :: contexts => .returned contexts root :: peeled root contexts

def behind : Fault → List Cause
  | .fatal f => .fault f :: behind f
  | .callback _ root contexts => .returned contexts.reverse root :: peeled root contexts.reverse
  | .configParse detail | .io detail => [.outside detail]
  | _ => []

def own : Fault → List String
  | .callback _ root contexts => contexts.reverse ++ [root]
  | .configParse detail | .io detail => [detail]
  | _ => []

def within : Nat → Fault → List Fault
  | 0, _ => []
  | n + 1, f => wrap n f :: within n f

section Chains
variable {c : Cause} {cs ds : List Cause} {f : Fault}

theorem Chain.unique (left : Chain c cs) (right : Chain c ds) : cs = ds := by
  induction left generalizing ds with
  | root last =>
    cases right with
    | root => rfl
    | link next => exact nomatch last.symm.trans next
  | link next rest ih =>
    cases right with
    | root last => exact nomatch last.symm.trans next
    | link next' rest' =>
      cases Option.some.inj (next.symm.trans next')
      rw [ih rest']

theorem chain_returned (root : String) (contexts : List String) :
    Chain (.returned contexts root) (peeled root contexts) := by
  induction contexts with
  | nil => exact .root rfl
  | cons context contexts ih => exact .link rfl ih

theorem chain_behind (f : Fault) : Chain (.fault f) (behind f) := by
  induction f with
  | fatal f ih => exact .link rfl ih
  | callback operation root contexts => exact .link rfl (chain_returned root contexts.reverse)
  | configParse | io => exact .link rfl (.root rfl)
  | _ => exact .root rfl

theorem chain_iff (f : Fault) (cs : List Cause) : Chain (.fault f) cs ↔ cs = behind f := by
  constructor
  · exact fun chain => chain.unique (chain_behind f)
  · rintro rfl
    exact chain_behind f

theorem text_peeled (root : String) (contexts : List String) :
    (Cause.returned contexts root :: peeled root contexts).map Cause.text = contexts ++ [root] := by
  induction contexts with
  | nil => rfl
  | cons context contexts ih => rw [peeled, List.map_cons, ih]; rfl

theorem sources_behind (f : Fault) : f.sources = (behind f).map Cause.text := by
  induction f with
  | fatal f ih => rw [sources, behind, List.map_cons, ih]; rfl
  | callback operation root contexts => rw [behind, text_peeled]; rfl
  | _ => rfl

theorem text_behind (base : ∀ g, f ≠ .fatal g) : (behind f).map Cause.text = own f := by
  cases f with
  | fatal g => exact absurd rfl (base g)
  | callback operation root contexts => exact text_peeled root contexts.reverse
  | _ => rfl

theorem behind_wrap (n : Nat) (f : Fault) : behind (wrap n f) = (within n f).map .fault ++ behind f := by
  induction n with
  | zero => rfl
  | succ n ih => rw [wrap, behind, ih]; rfl

end Chains

section Messages

theorem outermost_eq (root : String) (contexts : List String) :
    outermost root contexts = (Cause.returned contexts.reverse root).text := by
  rw [outermost, Cause.text, List.headD_eq_head?_getD, List.head?_reverse]

theorem message_ends (e : Fault) (c : Cause) (next : (Cause.fault e).next? = some c) :
    ∃ lead, e.message = lead ++ c.text := by
  cases e with
  | fatal f =>
    cases next
    exact ⟨_, rfl⟩
  | callback operation root contexts =>
    cases next
    exact ⟨_, congrArg _ (outermost_eq root contexts)⟩
  | configParse detail | io detail =>
    cases next
    exact ⟨_, rfl⟩
  | _ => exact nomatch next

theorem message_wrap (k : Nat) (f : Fault) (m : Nat) :
    ∃ lead, (wrap (k + m) f).message = lead ++ (wrap k f).message := by
  induction m with
  | zero => exact ⟨"", String.empty_append.symm⟩
  | succ m ih =>
    obtain ⟨lead, ends⟩ := ih
    exact ⟨_, (congrArg _ ends).trans String.append_assoc.symm⟩

end Messages

def Raised (f : Fault) : Prop :=
  (∃ operation root contexts, f = .callback operation root contexts) ∨
    ∃ operation text, f = .callbackPanicked operation text

section Questions
variable {f : Fault}

theorem isShutdown_iff (f : Fault) :
    f.isShutdown = true ↔ f = .alreadyShutdown ∨ f = .serviceShutdown ∨ ∃ g, f = .fatal g := by
  cases f <;> simp [isShutdown]

theorem isCallbackFailure_iff (f : Fault) : f.isCallbackFailure = true ↔ Raised f := by
  cases f <;> simp [isCallbackFailure, Raised]

theorem not_both (f : Fault) : ¬ (f.isShutdown = true ∧ f.isCallbackFailure = true) := by
  rintro ⟨shutdown, raised⟩
  rcases (isCallbackFailure_iff f).mp raised with ⟨_, _, _, rfl⟩ | ⟨_, _, rfl⟩ <;> exact nomatch shutdown

theorem isShutdown_wrap (base : ∀ g, f ≠ .fatal g) (n : Nat) :
    (wrap n f).isShutdown = true ↔ 0 < n ∨ f = .alreadyShutdown ∨ f = .serviceShutdown := by
  cases n with
  | zero =>
    rw [wrap, isShutdown_iff]
    simp [base]
  | succ n => exact iff_of_true rfl (.inl n.succ_pos)

theorem isCallbackFailure_wrap (n : Nat) : (wrap n f).isCallbackFailure = true ↔ n = 0 ∧ Raised f := by
  cases n with
  | zero => rw [wrap, isCallbackFailure_iff, and_iff_right rfl]
  | succ n => exact iff_of_false nofun nofun

end Questions

/-- Behind a fault in any number of fatal ones are all of these, and then what is behind the fault itself. Every fault
with a cause says last what the cause says, and so a wrapped fault says all that is inside. Only the outermost layer
tells what kind of fault it is. -/
theorem causes_kept (f : Fault) (base : ∀ g, f ≠ .fatal g) (n : Nat) :
    (∃ cs, cs.map Cause.text = own f ∧
        ∀ all, Chain (.fault (wrap n f)) all ↔ all = (within n f).map .fault ++ cs) ∧
      (wrap n f).sources = (within n f).map message ++ own f ∧
      (∀ e c cs, Chain (.fault e) (c :: cs) → ∃ lead, e.message = lead ++ c.text) ∧
      (∀ k ≤ n, ∃ lead, (wrap n f).message = lead ++ (wrap k f).message) ∧
      ((wrap n f).isShutdown = true ↔ 0 < n ∨ f = .alreadyShutdown ∨ f = .serviceShutdown) ∧
      ((wrap n f).isCallbackFailure = true ↔ n = 0 ∧ Raised f) ∧
      ∀ e : Fault, ¬ (e.isShutdown = true ∧ e.isCallbackFailure = true) := by
  refine ⟨⟨behind f, text_behind base, fun all => ?_⟩, ?_, fun e c cs chain => ?_, fun k inner => ?_,
    isShutdown_wrap base n, isCallbackFailure_wrap n, not_both⟩
  · rw [chain_iff, behind_wrap]
  · rw [sources_behind, behind_wrap, List.map_append, text_behind base, List.map_map]
    rfl
  · cases chain with
    | link next rest => exact message_ends e c next
  · have deeper := message_wrap k f (n - k)
    rwa [Nat.add_sub_cancel' inner] at deeper

def lostVote : Fault := .callback "grant_leadership" "no quorum" ["while voting", "in term 7"]

theorem lostVote_kept :
    (∀ g, lostVote ≠ .fatal g) ∧
      (wrap 2 lostVote).sources =
        ["Leader election service is shutting down after a fatal error: Callback 'grant_leadership' failed: in term 7",
          "Callback 'grant_leadership' failed: in term 7", "in term 7", "while voting", "no quorum"] ∧
      (∃ lead, (wrap 2 lostVote).message = lead ++ "Callback 'grant_leadership' failed: in term 7") ∧
      (wrap 2 lostVote).isShutdown = true ∧ ¬ (wrap 2 lostVote).isCallbackFailure = true := by
  have base : ∀ g, lostVote ≠ .fatal g := nofun
  obtain ⟨_, sources, _, ends, shutdown, raised, _⟩ := causes_kept lostVote base 2
  refine ⟨base, sources.trans (by decide), ends 0 (by decide), shutdown.mpr (.inl (by decide)), ?_⟩
  exact fun failed => absurd (raised.mp failed).1 (by decide)

end Fault
end Leadership
