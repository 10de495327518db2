/-
  ProviiSdk.Ios.RetryPolicy — which Keychain failures are tried again.

  A failed authentication or a cancelled prompt is definitive: to try
  again would get round the system's biometric lockout.  The retry loop
  recognises such errors by their texts, and a status by its digits, so
  that a longer status that starts with them is taken for one.

  The loop's log lines and its pauses are left out.

  Main results:
    * `definitive_mapKeychainError_iff` — the statuses whose errors are
      definitive.
    * `withRetry_run` — the policy in the loop's own terms.
    * `retry_policy_iff` — when definitive errors alone end it early.
-/

import ProviiSdk.Ios.Keychain
import ProviiSdk.Lib.Text

namespace ProviiSdk.Ios

open ProviiSdk.Platform ProviiSdk.Retry ProviiSdk.Text

/-! ## §1. Definitive errors -/

/-- Does the text name the status, as a whole number? -/
def namesStatus (msg : String) (status : Int) : Bool :=
  msg.toList.tails.any fun rest =>
    match rest.dropPrefix? s!"OSStatus: {status}".toList with
    | some after => after.head?.all fun c => !c.isDigit
    | none => false

/-- **The definitive errors**: a biometric failure, an authentication
    failure, or a cancellation by the user, named by its text or its
    status. -/
def definitive : WalletError → Bool
  | .biometricFailed _ => true
  | .storage msg =>
    contains "Authentication failed" msg || contains "User cancelled" msg ||
      namesStatus msg errSecAuthFailed || namesStatus msg errSecUserCanceled
  | _ => false

/-- An error that the loop takes for a definitive one. -/
def Misread (e : WalletError) : Prop := isNonRetryableError e = true ∧ definitive e = false

theorem namesStatus_iff (msg : String) (status : Int) :
    namesStatus msg status = true ↔
      ∃ front after, msg.toList = front ++ (s!"OSStatus: {status}".toList ++ after) ∧
        ∀ c ∈ after.head?, c.isDigit = false := by
  unfold namesStatus
  rw [List.any_eq_true]
  constructor
  · rintro ⟨rest, hrest, hnames⟩
    obtain ⟨front, hfront⟩ := (List.mem_tails _ _).1 hrest
    split at hnames
    next after hdrop =>
      obtain ⟨p, hp, hbeq⟩ := List.dropPrefix?_eq_some_iff.1 hdrop
      rw [eq_of_beq hbeq] at hp
      refine ⟨front, after, by rw [← hfront, hp], fun c hc => ?_⟩
      have hend := (Option.all_eq_true _ _).1 hnames c hc
      rwa [Bool.not_eq_true'] at hend
    next => cases hnames
  · rintro ⟨front, after, hmsg, hend⟩
    refine ⟨_, (List.mem_tails _ _).2 ⟨front, hmsg.symm⟩, ?_⟩
    rw [dropPrefix?_append]
    rw [Option.all_eq_true]
    intro c hc
    rw [hend c hc]
    rfl

/-- **The loop retries no definitive error.** -/
theorem isNonRetryable_of_definitive {e : WalletError} (h : definitive e = true) :
    isNonRetryableError e = true := by
  cases e with
  | biometricFailed msg => rfl
  | storage msg =>
    -- a text that names a status has its digits
    have hwithin : ∀ status, namesStatus msg status = true →
        s!"OSStatus: {status}".toList <:+: msg.toList := by
      intro status hnames
      obtain ⟨front, after, hmsg, -⟩ := (namesStatus_iff msg status).1 hnames
      rw [hmsg, ← List.append_assoc]
      exact List.infix_append _ _ _
    unfold definitive contains at h
    unfold isNonRetryableError
    simp only [Bool.or_eq_true, decide_eq_true_eq] at h ⊢
    rcases h with ((h | h) | h) | h
    · exact Or.inl (Or.inl (Or.inl h))
    · exact Or.inl (Or.inl (Or.inr h))
    · exact Or.inl (Or.inr (hwithin _ h))
    · exact Or.inr (hwithin _ h)
  | notFound => cases h
  | alreadyExists => cases h
  | notSupported => cases h
  | biometricRequired => cases h

/-! ## §2. Statuses -/

/-- The numeral of a status: a sign at most, then digits. -/
theorem toList_toString (i : Int) :
    (toString i).toList = if i < 0 then '-' :: decimal i.natAbs else decimal i.natAbs := by
  have hnat : ∀ n : Nat, (Nat.repr n).toList = decimal n := by
    intro n
    unfold Nat.repr decimal
    rw [String.toList_ofList]
  cases i with
  | ofNat n =>
    have hpos : ¬ Int.ofNat n < 0 := Int.not_lt.2 (Int.natCast_nonneg n)
    rw [if_neg hpos]
    exact hnat n
  | negSucc n =>
    rw [if_pos (Int.negSucc_lt_zero n)]
    show ("-" ++ Nat.repr (n + 1)).toList = _
    rw [String.toList_append, hnat]
    rfl

/-- The characters of a numeral, and those behind its first. -/
theorem mem_numeral {i : Int} {c : Char} (h : c ∈ (toString i).toList) :
    c = '-' ∨ c.isDigit = true := by
  rw [toList_toString] at h
  split at h
  · rcases List.mem_cons.1 h with hsign | hdigit
    · exact Or.inl hsign
    · exact Or.inr (isDigit_of_mem_decimal _ c hdigit)
  · exact Or.inr (isDigit_of_mem_decimal _ c h)

theorem mem_tail_numeral {i : Int} {c : Char} (h : c ∈ (toString i).toList.tail) :
    c.isDigit = true := by
  rw [toList_toString] at h
  split at h
  · exact isDigit_of_mem_decimal _ c h
  · exact isDigit_of_mem_decimal _ c (List.mem_of_mem_tail h)

theorem numeral_ne_nil (i : Int) : (toString i).toList ≠ [] := by
  rw [toList_toString]
  split
  · exact List.cons_ne_nil _ _
  · exact Nat.toDigits_ne_nil

theorem toString_int_injective {i j : Int} (h : (toString i).toList = (toString j).toList) :
    i = j := by
  rw [toList_toString, toList_toString] at h
  have hdash : ∀ n : Nat, ∀ ds, decimal n ≠ '-' :: ds := fun n ds =>
    decimal_ne_cons n '-' (by decide) ds
  split at h
  next hi =>
    split at h
    next hj =>
      have habs := decimal_injective _ _ (List.cons.inj h).2
      omega
    next hj => exact absurd h.symm (hdash _ _)
  next hi =>
    split at h
    next hj => exact absurd h (hdash _ _)
    next hj =>
      have habs := decimal_injective _ _ h
      omega

/-- A numeral followed by a character that is no digit ends there. -/
theorem numeral_unique {i j : Int} {after rest : List Char}
    (h : (toString i).toList ++ after = (toString j).toList ++ ')' :: rest)
    (hafter : ∀ c ∈ after.head?, c.isDigit = false) : i = j := by
  refine toString_int_injective ?_
  rcases List.append_eq_append_iff.1 h with ⟨as, hj, htail⟩ | ⟨bs, hi, htail⟩
  · cases as with
    | nil => rw [hj, List.append_nil]
    | cons c as =>
      -- the rest of the longer numeral would start with a digit
      have hc : c ∈ (toString j).toList.tail := by
        obtain ⟨d, ds, hds⟩ := List.exists_cons_of_ne_nil (numeral_ne_nil i)
        rw [hj, hds, List.cons_append, List.tail_cons]
        exact List.mem_append_right _ List.mem_cons_self
      have hdigit := mem_tail_numeral hc
      rw [hafter c (by rw [htail]; rfl)] at hdigit
      cases hdigit
  · cases bs with
    | nil => rw [hi, List.append_nil]
    | cons c bs =>
      -- a numeral has no bracket
      injection htail with hc
      have hmem : c ∈ (toString i).toList := by
        rw [hi]
        exact List.mem_append_right _ List.mem_cons_self
      rw [← hc] at hmem
      rcases mem_numeral hmem with hdash | hdigit
      · cases hdash
      · cases hdigit

/-- **The report of a status** names that status and no other. -/
theorem namesStatus_report {title : String} (htitle : 'O' ∉ title.toList) (status named : Int) :
    namesStatus s!"{title} (OSStatus: {status})" named = true ↔ status = named := by
  have hreport : (s!"{title} (OSStatus: {status})").toList = (title.toList ++ " (".toList) ++
      'O' :: ("SStatus: ".toList ++ ((toString status).toList ++ [')'])) := by
    show (title ++ " (OSStatus: " ++ toString status ++ ")").toList = _
    simp only [String.toList_append, List.append_assoc]
    rfl
  have hpattern : (s!"OSStatus: {named}").toList =
      'O' :: ("SStatus: ".toList ++ (toString named).toList) := by
    show ("OSStatus: " ++ toString named).toList = _
    rw [String.toList_append]
    rfl
  -- the pattern starts at the only capital O of the report
  have hfront : 'O' ∉ title.toList ++ " (".toList := by
    rw [List.mem_append]
    rintro (h | h)
    · exact htitle h
    · revert h
      decide
  have hback : 'O' ∉ "SStatus: ".toList ++ ((toString status).toList ++ [')']) := by
    rw [List.mem_append, List.mem_append]
    rintro (h | h | h)
    · revert h
      decide
    · rcases mem_numeral h with hdash | hdigit
      · cases hdash
      · cases hdigit
    · revert h
      decide
  rw [namesStatus_iff, hreport, hpattern]
  constructor
  · rintro ⟨front, after, hmsg, hend⟩
    rw [List.cons_append] at hmsg
    obtain ⟨-, -, hrest⟩ := (List.append_cons_inj_of_notMem hfront hback).1 hmsg
    rw [List.append_assoc, List.append_cancel_left_eq] at hrest
    exact (numeral_unique hrest.symm hend).symm
  · rintro rfl
    refine ⟨title.toList ++ " (".toList, [')'], ?_, ?_⟩
    · rw [List.cons_append, List.append_assoc "SStatus: ".toList]
    · intro c hc
      injection hc with hc
      rw [← hc]
      decide

/-- A report whose title says nothing of it is definitive by its status. -/
theorem definitive_report {title : String} (hO : 'O' ∉ title.toList) (hA : 'A' ∉ title.toList)
    (hU : 'U' ∉ title.toList) (status : Int) :
    definitive (.storage s!"{title} (OSStatus: {status})") = true ↔
      status = errSecAuthFailed ∨ status = errSecUserCanceled := by
  have habsent : ∀ c : Char, c ∉ title.toList → c ∉ " (OSStatus: )".toList → c ≠ '-' →
      c.isDigit = false → ∀ pattern : String, c ∈ pattern.toList →
        contains pattern s!"{title} (OSStatus: {status})" = false := by
    intro c htitle htext hdash hdigit pattern hpattern
    refine decide_eq_false fun hwithin => ?_
    have hmem : c ∈ (title ++ " (OSStatus: " ++ toString status ++ ")").toList :=
      hwithin.subset hpattern
    simp only [String.toList_append, List.mem_append] at hmem
    rcases hmem with ((hmem | hmem) | hmem) | hmem
    · exact htitle hmem
    · exact htext (List.mem_append_left [')'] hmem)
    · rcases mem_numeral hmem with hsign | hnumber
      · exact hdash hsign
      · rw [hdigit] at hnumber
        cases hnumber
    · exact htext (List.mem_append_right " (OSStatus: ".toList hmem)
  show (contains "Authentication failed" s!"{title} (OSStatus: {status})" ||
    contains "User cancelled" s!"{title} (OSStatus: {status})" ||
    namesStatus s!"{title} (OSStatus: {status})" errSecAuthFailed ||
    namesStatus s!"{title} (OSStatus: {status})" errSecUserCanceled) = true ↔ _
  rw [habsent 'A' hA (by decide) (by decide) (by decide) _ (by decide),
    habsent 'U' hU (by decide) (by decide) (by decide) _ (by decide), Bool.false_or, Bool.false_or,
    Bool.or_eq_true, namesStatus_report hO, namesStatus_report hO]

/-- **The statuses whose errors are definitive**: a failed authentication
    and a cancellation by the user. -/
theorem definitive_mapKeychainError_iff (status : Int) :
    definitive (mapKeychainError status) = true ↔
      status = errSecAuthFailed ∨ status = errSecUserCanceled := by
  by_cases hauth : status = errSecAuthFailed
  · subst hauth
    exact iff_of_true (by decide +kernel) (Or.inl rfl)
  by_cases hcancel : status = errSecUserCanceled
  · subst hcancel
    exact iff_of_true (by decide +kernel) (Or.inr rfl)
  unfold mapKeychainError
  rw [if_neg hauth, if_neg hcancel]
  by_cases hnotFound : status = errSecItemNotFound
  · rw [if_pos hnotFound]
    exact definitive_report (by decide) (by decide) (by decide) status
  by_cases hduplicate : status = errSecDuplicateItem
  · rw [if_neg hnotFound, if_pos hduplicate]
    exact definitive_report (by decide) (by decide) (by decide) status
  · rw [if_neg hnotFound, if_neg hduplicate]
    exact definitive_report (by decide) (by decide) (by decide) status

/-! ## §3. The policy -/

variable {α : Type}

/-- **The policy** for a run that ended with an answer after some calls:
    the budget is kept, no call follows a success or a definitive error,
    and the answer is the last call's: with budget left, a success or a
    definitive error. -/
structure FollowsPolicy (maxRetries : Nat) (outcomes : Nat → Except WalletError α)
    (run : Except WalletError α × Nat) : Prop where
  budget : run.2 ≤ maxRetries + 1
  quiet : ∀ m, m + 1 < run.2 → ∃ e, outcomes m = .error e ∧ definitive e = false
  answer : ∃ n, run = (outcomes n, n + 1) ∧
    (n < maxRetries → ∀ e, outcomes n = .error e → definitive e = true)

/-- The loop comes to a call: every call before it failed with an error
    that it retries. -/
def Reaches (outcomes : Nat → Except WalletError α) (n : Nat) : Prop :=
  ∀ m < n, ∃ e, outcomes m = .error e ∧ isNonRetryableError e = false

/-- **The policy in the loop's own terms**, whatever the operation's
    calls end with. -/
theorem withRetry_run (maxRetries : Nat) (outcomes : Nat → Except WalletError α) :
    ∃ n ≤ maxRetries, withRetry maxRetries (calls outcomes) 0 = (outcomes n, n + 1) ∧
      Reaches outcomes n ∧
      (n < maxRetries → ∀ e, outcomes n = .error e → isNonRetryableError e = true) := by
  obtain ⟨n, hn, hrun, hbefore, hlast⟩ := retry_calls isNonRetryableError outcomes maxRetries 0 0
  simp only [Nat.zero_add] at hrun hbefore hlast
  exact ⟨n, hn, hrun, hbefore, hlast⟩

/-- **When the policy is followed**: exactly if the loop comes to no
    misread error while it has budget left. -/
theorem retry_policy_iff (maxRetries : UInt32) (outcomes : Nat → Except WalletError α) :
    FollowsPolicy maxRetries.toNat outcomes
        (withRetry maxRetries.toNat (calls outcomes) 0) ↔
      ∀ n < maxRetries.toNat, Reaches outcomes n → ∀ e, outcomes n = .error e → ¬ Misread e := by
  obtain ⟨n, hn, hrun, hreaches, hlast⟩ := withRetry_run maxRetries.toNat outcomes
  rw [hrun]
  constructor
  · rintro ⟨-, -, n', hn', hanswer⟩ k hk hreachesK e he hmisread
    injection hn' with _ hcalls
    have hsame : n = n' := Nat.succ.inj hcalls
    subst hsame
    -- the loop ends at the misread error and nowhere else
    have hkn : k = n := by
      rcases Nat.lt_trichotomy k n with hlt | heq | hgt
      · obtain ⟨e', he', hretried⟩ := hreaches k hlt
        rw [he] at he'
        injection he' with he'
        rw [← he', hmisread.1] at hretried
        cases hretried
      · exact heq
      · obtain ⟨e', he', hretried⟩ := hreachesK n hgt
        rw [hlast (Nat.lt_trans hgt hk) e' he'] at hretried
        cases hretried
    subst hkn
    have hdefinitive := hanswer hk e he
    rw [hmisread.2] at hdefinitive
    cases hdefinitive
  · intro hcond
    refine ⟨Nat.succ_le_succ hn, fun m hm => ?_, n, rfl, fun hlt e he => ?_⟩
    · obtain ⟨e, he, hretried⟩ := hreaches m (Nat.lt_of_succ_lt_succ hm)
      refine ⟨e, he, ?_⟩
      by_contra hnot
      rw [isNonRetryable_of_definitive (Bool.not_eq_false _ ▸ hnot)] at hretried
      cases hretried
    · by_contra hnot
      exact hcond n hlt hreaches e he ⟨hlast hlt e he, Bool.not_eq_true _ ▸ hnot⟩

/-- The Keychain fails once with a status of four digits, then answers. -/
def longStatus : Nat → Except WalletError Unit
  | 0 => .error (mapKeychainError (-1280))
  | _ + 1 => .ok ()

/-- **A status of four digits ends the loop**: it starts with those of a
    cancellation, and what the next call would have answered is not asked
    for. -/
theorem long_status_not_retried :
    definitive (mapKeychainError (-1280)) = false ∧
      withRetry 3 (calls longStatus) 0 = (.error (mapKeychainError (-1280)), 1) ∧
      ¬ FollowsPolicy 3 longStatus (withRetry 3 (calls longStatus) 0) := by
  have hstatus : definitive (mapKeychainError (-1280)) = false := by decide +kernel
  have hrun : withRetry 3 (calls longStatus) 0 = (.error (mapKeychainError (-1280)), 1) := by
    decide +kernel
  refine ⟨hstatus, hrun, ?_⟩
  rintro ⟨-, -, n, hn, hanswer⟩
  rw [hrun] at hn
  injection hn with _ hcalls
  have hzero : n = 0 := by omega
  subst hzero
  have hdefinitive := hanswer (by decide) _ rfl
  rw [hstatus] at hdefinitive
  cases hdefinitive

end ProviiSdk.Ios
