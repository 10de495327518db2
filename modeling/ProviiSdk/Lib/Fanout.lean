/-
  ProviiSdk.Lib.Fanout — one sender, and subscribers that come and go.

  Subscribers join, all leave at once, and what is sent goes to each one
  that is there at the time, in the order in which they joined.

  Main results:
    * `deliveries_append` — a run after another.
    * `received_between` — what arrives while nobody leaves.
    * `received_once` — a subscriber that joins once receives what is
      sent until it leaves, each once and in order.
-/

import Mathlib.Data.List.Basic

namespace ProviiSdk.Fanout

variable {L U : Type}

/-! ## §1. Events and deliveries -/

inductive Event (L U : Type) where
  | join (l : L)
  | clear
  | emit (u : U)

/-- Who is subscribed after an event. -/
def subscribers (ls : List L) : Event L U → List L
  | .join l => ls ++ [l]
  | .clear => []
  | .emit _ => ls

/-- What an event sends, and to whom. -/
def deliver (ls : List L) : Event L U → List (L × U)
  | .join _ => []
  | .clear => []
  | .emit u => ls.map fun l => (l, u)

/-- The deliveries of a run. -/
def deliveries : List L → List (Event L U) → List (L × U)
  | _, [] => []
  | ls, e :: es => deliver ls e ++ deliveries (subscribers ls e) es

/-- What a run sends. -/
def emitted : List (Event L U) → List U
  | [] => []
  | .emit u :: es => u :: emitted es
  | .join _ :: es => emitted es
  | .clear :: es => emitted es

/-- Who joins in a run. -/
def joined : List (Event L U) → List L
  | [] => []
  | .join l :: es => l :: joined es
  | .emit _ :: es => joined es
  | .clear :: es => joined es

/-- Nobody leaves in a run. -/
def Lasting : List (Event L U) → Prop
  | [] => True
  | .clear :: _ => False
  | .join _ :: es => Lasting es
  | .emit _ :: es => Lasting es

/-- A run at whose start everybody leaves, or without events. -/
def Departs : List (Event L U) → Prop
  | [] => True
  | .clear :: _ => True
  | .join _ :: _ => False
  | .emit _ :: _ => False

theorem deliveries_append (ls : List L) (es es' : List (Event L U)) :
    deliveries ls (es ++ es') = deliveries ls es ++ deliveries (es.foldl subscribers ls) es' := by
  induction es generalizing ls with
  | nil => rfl
  | cons e es ih =>
    rw [List.cons_append, deliveries, deliveries, ih, List.append_assoc]
    rfl

theorem joined_append (es es' : List (Event L U)) :
    joined (es ++ es') = joined es ++ joined es' := by
  induction es with
  | nil => rfl
  | cons e es ih =>
    cases e with
    | join l => exact congrArg (l :: ·) ih
    | clear => exact ih
    | emit u => exact ih

/-- When another joins, who was not subscribed is not. -/
theorem notMem_join {l k : L} {ls : List L} (hls : l ∉ ls) (hne : l ≠ k) : l ∉ ls ++ [k] := by
  rw [List.mem_append, not_or]
  exact ⟨hls, fun h => hne (List.mem_singleton.1 h)⟩

/-- Nobody is subscribed that has not joined. -/
theorem not_mem_subscribers (l : L) {ls : List L} (hls : l ∉ ls) {es : List (Event L U)}
    (hjoin : l ∉ joined es) : l ∉ es.foldl subscribers ls := by
  induction es generalizing ls with
  | nil => exact hls
  | cons e es ih =>
    cases e with
    | clear => exact ih List.not_mem_nil hjoin
    | join k =>
      have hjoined := notMem_join hls (List.ne_of_not_mem_cons hjoin)
      exact ih hjoined (List.not_mem_of_not_mem_cons hjoin)
    | emit u => exact ih hls hjoin

/-! ## §2. What one subscriber receives -/

variable [DecidableEq L]

/-- The messages to one subscriber. -/
def received (l : L) (log : List (L × U)) : List U :=
  log.filterMap fun d => if d.1 = l then some d.2 else none

theorem received_append (l : L) (log log' : List (L × U)) :
    received l (log ++ log') = received l log ++ received l log' :=
  List.filterMap_append

/-- One message arrives once for every subscription. -/
theorem received_emit (l : L) (ls : List L) (u : U) :
    received l (ls.map fun k => (k, u)) = List.replicate (ls.count l) u := by
  induction ls with
  | nil => rfl
  | cons k ls ih =>
    unfold received at ih ⊢
    simp only [List.map_cons, List.count_cons, List.filterMap_cons, ih]
    by_cases hk : k = l
    · rw [if_pos hk, if_pos (beq_iff_eq.2 hk), List.replicate_succ]
    · rw [if_neg hk, if_neg fun h => hk (beq_iff_eq.1 h), Nat.add_zero]

/-- **While nobody leaves**, each message arrives once for every
    subscription. -/
theorem received_between (l : L) (ls : List L) {es : List (Event L U)} (hlast : Lasting es)
    (hjoin : l ∉ joined es) :
    received l (deliveries ls es) = (emitted es).flatMap (List.replicate (ls.count l)) := by
  induction es generalizing ls with
  | nil => rfl
  | cons e es ih =>
    cases e with
    | clear => exact hlast.elim
    | join k =>
      have hk := List.ne_of_not_mem_cons hjoin
      have hcount : (ls ++ [k]).count l = ls.count l := by
        rw [List.count_append, List.count_eq_zero.2 fun h => hk (List.mem_singleton.1 h),
          Nat.add_zero]
      have htail := ih (ls ++ [k]) hlast (List.not_mem_of_not_mem_cons hjoin)
      rw [hcount] at htail
      exact htail
    | emit u =>
      rw [deliveries, received_append, emitted, List.flatMap_cons]
      exact congr (congrArg _ (received_emit l ls u)) (ih ls hlast hjoin)

/-- Who is not subscribed and does not join receives nothing. -/
theorem received_absent (l : L) {ls : List L} (hls : l ∉ ls) {es : List (Event L U)}
    (hjoin : l ∉ joined es) : received l (deliveries ls es) = [] := by
  induction es generalizing ls with
  | nil => rfl
  | cons e es ih =>
    cases e with
    | clear => exact ih List.not_mem_nil hjoin
    | join k =>
      have hjoined := notMem_join hls (List.ne_of_not_mem_cons hjoin)
      exact ih hjoined (List.not_mem_of_not_mem_cons hjoin)
    | emit u =>
      rw [deliveries, received_append]
      have hnone : received l (deliver ls (.emit u)) = [] := by
        have hemit := received_emit l ls u
        rw [List.count_eq_zero.2 hls] at hemit
        exact hemit
      rw [hnone, List.nil_append]
      exact ih hls hjoin

/-- **A subscriber that joins once** receives what is sent until everybody
    leaves, each message once and in order. -/
theorem received_once (l : L) {es mid es' : List (Event L U)} (hes : l ∉ joined es)
    (hlast : Lasting mid) (hmid : l ∉ joined mid) (hdeparts : Departs es')
    (hes' : l ∉ joined es') :
    received l (deliveries [] (es ++ .join l :: (mid ++ es'))) = emitted mid := by
  have hbefore := not_mem_subscribers l List.not_mem_nil hes
  rw [deliveries_append, received_append, received_absent l List.not_mem_nil hes,
    List.nil_append]
  show received l (deliveries (es.foldl subscribers [] ++ [l]) (mid ++ es')) = emitted mid
  have hcount : (es.foldl subscribers [] ++ [l]).count l = 1 := by
    rw [List.count_append, List.count_eq_zero.2 hbefore, List.count_singleton_self]
  have hrest : received l (deliveries (mid.foldl subscribers (es.foldl subscribers [] ++ [l])) es')
      = [] := by
    cases es' with
    | nil => rfl
    | cons e es' =>
      cases e with
      | clear => exact received_absent l List.not_mem_nil hes'
      | join k => exact hdeparts.elim
      | emit u => exact hdeparts.elim
  rw [deliveries_append, received_append, hrest, List.append_nil,
    received_between l _ hlast hmid, hcount]
  exact List.flatMap_singleton' _

end ProviiSdk.Fanout
