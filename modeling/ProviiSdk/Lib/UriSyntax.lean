/-
  ProviiSdk.Lib.UriSyntax — the generic syntax of URIs, on characters.

  A URI is a scheme, an authority behind two slashes, a path, a query
  behind a question mark and a fragment behind a hash.  Each part ends at
  the first mark that can follow it, so a URI is taken apart by cutting at
  marks.

  Main results:
    * `before_append`, `after_append` — what a cut gives back.
    * `trimEnd_append`, `trimEnd_mark` — trimming stops at a text that does
      not end in what it trims.
    * `host?_trimEnd`, `host?_trimEnd_of_empty` — trimming slashes keeps
      the host of a URI with an authority, and makes none without.
    * `dotFree_append_slash` — dot segments of a path and one behind it.
-/

import Mathlib.Data.List.DropRight

namespace ProviiSdk.UriSyntax

/-! ## §1. Cutting at a mark -/

/-- The text before the first mark, or all of it. -/
def before (c : Char) (cs : List Char) : List Char := cs.takeWhile fun d => d != c

/-- The text after the first mark, if there is one. -/
def after? (c : Char) (cs : List Char) : Option (List Char) := (cs.dropWhile fun d => d != c).tail?

/-- A part behind its mark. -/
def marked (c : Char) : Option (List Char) → List Char
  | none => []
  | some part => c :: part

private theorem ne_of_notMem {c : Char} {cs : List Char} (h : c ∉ cs) :
    ∀ d ∈ cs, (d != c) = true := by
  intro d hd
  rw [bne_iff_ne]
  rintro rfl
  exact h hd

/-- **A cut gives back** what stands before the mark. -/
theorem before_append {c : Char} {cs : List Char} (h : c ∉ cs) (part : Option (List Char)) :
    before c (cs ++ marked c part) = cs := by
  unfold before
  rw [List.takeWhile_append_of_pos (ne_of_notMem h)]
  cases part with
  | none => exact List.append_nil cs
  | some part =>
    show cs ++ List.takeWhile _ (c :: part) = cs
    rw [List.takeWhile_cons_of_neg (by simp), List.append_nil]

/-- And what stands after it. -/
theorem after_append {c : Char} {cs : List Char} (h : c ∉ cs) (part : Option (List Char)) :
    after? c (cs ++ marked c part) = part := by
  unfold after?
  rw [List.dropWhile_append_of_pos (ne_of_notMem h)]
  cases part with
  | none => rfl
  | some part =>
    show (List.dropWhile _ (c :: part)).tail? = some part
    rw [List.dropWhile_cons_of_neg (by simp)]
    rfl

theorem notMem_before (c : Char) (cs : List Char) : c ∉ before c cs := by
  intro h
  have hne := List.mem_takeWhile_imp h
  exact absurd hne (by simp)

/-- A text is what is before a mark, and what is after it. -/
theorem before_append_after (c : Char) (cs : List Char) :
    before c cs ++ marked c (after? c cs) = cs := by
  unfold before after?
  conv_rhs => rw [← List.takeWhile_append_dropWhile (p := fun d => d != c) (l := cs)]
  congr 1
  cases hrest : cs.dropWhile fun d => d != c with
  | nil => rfl
  | cons d rest =>
    have hd := List.head_dropWhile_not (fun d => d != c) (l := cs) (by rw [hrest]; exact nofun)
    simp only [hrest, List.head_cons, bne_eq_false_iff_eq] at hd
    rw [hd]
    rfl

/-- **Which texts a cut takes to a name**: the name, and the name with a
    mark behind it. -/
theorem before_eq_iff {c : Char} {name : List Char} (h : c ∉ name) (cs : List Char) :
    before c cs = name ↔ cs = name ∨ name ++ [c] <+: cs := by
  constructor
  · intro hbefore
    have hcut := before_append_after c cs
    rw [hbefore] at hcut
    cases hafter : after? c cs with
    | none =>
      left
      rw [hafter] at hcut
      exact hcut.symm.trans (List.append_nil name)
    | some part =>
      right
      rw [hafter] at hcut
      refine ⟨part, ?_⟩
      rw [List.append_assoc]
      exact hcut
  · intro hname
    rcases hname with rfl | ⟨part, rfl⟩
    · have hcut := before_append h none
      rwa [show marked c none = [] from rfl, List.append_nil] at hcut
    · rw [List.append_assoc]
      exact before_append h (some part)

/-! ## §2. Trimming an end -/

/-- Take a character off the end, as often as it is there. -/
def trimEnd (c : Char) (cs : List Char) : List Char := cs.rdropWhile fun d => d == c

/-- A text that does not end in the character. -/
def Bare (c : Char) (cs : List Char) : Prop := trimEnd c cs = cs

/-- **Trimming stops** at a bare text. -/
theorem trimEnd_append {c : Char} {cs : List Char} (h : Bare c cs) (ds : List Char) :
    trimEnd c (cs ++ ds) = cs ++ trimEnd c ds := by
  induction ds using List.reverseRecOn with
  | nil =>
    rw [List.append_nil]
    exact h.trans (List.append_nil cs).symm
  | append_singleton ds d ih =>
    unfold trimEnd at ih ⊢
    rw [← List.append_assoc, List.rdropWhile_concat, List.rdropWhile_concat]
    split
    · exact ih
    · exact List.append_assoc cs ds [d]

/-- A text whose end lacks the character is bare. -/
theorem bare_append {c : Char} (cs : List Char) {ds : List Char} (hne : ds ≠ []) (h : c ∉ ds) :
    Bare c (cs ++ ds) := by
  unfold Bare trimEnd
  rw [List.rdropWhile_eq_self_iff]
  intro hl
  rw [List.getLast_append_of_ne_nil hl hne, beq_iff_eq]
  intro hlast
  exact h (hlast ▸ List.getLast_mem hne)

/-- **Trimming stops** at any other character. -/
theorem trimEnd_mark {c d : Char} (hd : d ≠ c) (cs ds : List Char) :
    trimEnd c (cs ++ d :: ds) = cs ++ d :: trimEnd c ds := by
  have hbare : Bare c (cs ++ [d]) := bare_append cs nofun fun h => hd (List.mem_singleton.1 h).symm
  have hstop := trimEnd_append hbare ds
  rw [List.append_assoc, List.append_assoc] at hstop
  exact hstop

/-- What is taken off are copies of the character. -/
theorem exists_trimmed (c : Char) (cs : List Char) :
    ∃ rest, cs = trimEnd c cs ++ rest ∧ ∀ d ∈ rest, d = c := by
  refine ⟨cs.rtakeWhile fun d => d == c, List.rdropWhile_append_rtakeWhile.symm, ?_⟩
  intro d hd
  have hmem := List.mem_rtakeWhile_imp hd
  exact beq_iff_eq.1 hmem

/-! ## §3. Schemes, authorities and hosts -/

def scheme (uri : List Char) : List Char := before ':' uri

/-- A character that can stand in an authority. -/
def isAuthorityChar (c : Char) : Bool := c != '/' && c != '?' && c != '#'

/-- The authority at the beginning of what follows the two slashes. -/
def authority (rest : List Char) : List Char := rest.takeWhile isAuthorityChar

/-- The text after the last mark, or all of it. -/
def afterLast (c : Char) (cs : List Char) : List Char := cs.rtakeWhile fun d => d != c

/-- The host in an authority: without the user before an at sign, and the
    port behind a colon.  An address in brackets has colons of its own. -/
def hostOf (auth : List Char) : List Char :=
  match afterLast '@' auth with
  | '[' :: address => '[' :: (before ']' address ++ [']'])
  | host => before ':' host

/-- The host of a URI, if it has an authority. -/
def host? (uri : List Char) : Option (List Char) :=
  match after? ':' uri with
  | some ('/' :: '/' :: rest) => some (hostOf (authority rest))
  | _ => none

/-- **When there is a host**: behind the user stands something, and not
    the port. -/
theorem hostOf_ne_nil_iff (auth : List Char) :
    hostOf auth ≠ [] ↔ afterLast '@' auth ≠ [] ∧ (afterLast '@' auth).head? ≠ some ':' := by
  unfold hostOf
  generalize afterLast '@' auth = text
  split
  next address =>
    exact ⟨fun _ => ⟨nofun, by simp⟩, fun _ => nofun⟩
  next =>
    rw [Ne, before_eq_iff List.not_mem_nil text, not_or]
    refine and_congr Iff.rfl (not_congr ?_)
    cases text with
    | nil => simp
    | cons d text =>
      rw [List.nil_append, List.cons_prefix_cons, List.head?_cons, Option.some_inj]
      exact ⟨fun h => h.1.symm, fun h => ⟨h.symm, List.nil_prefix⟩⟩

/-- **When the host is a name**: the name stands behind the user, alone or
    before a port. -/
theorem hostOf_eq_iff {name : List Char} (hcolon : ':' ∉ name) (hbracket : name.head? ≠ some '[')
    (auth : List Char) :
    hostOf auth = name ↔ afterLast '@' auth = name ∨ name ++ [':'] <+: afterLast '@' auth := by
  unfold hostOf
  generalize afterLast '@' auth = text
  split
  next address =>
    -- no text with a bracket in front begins as the name does
    constructor
    · intro h
      exact absurd (h ▸ rfl) hbracket
    · intro h
      rcases h with h | h
      · exact absurd (h ▸ rfl) hbracket
      · cases name with
        | nil =>
          rw [List.nil_append, List.cons_prefix_cons] at h
          exact absurd h.1 (by decide)
        | cons d name =>
          rw [List.cons_append, List.cons_prefix_cons] at h
          exact absurd (congrArg some h.1) hbracket
  next => exact before_eq_iff hcolon text

theorem scheme_join {s : List Char} (hs : ':' ∉ s) (rest : List Char) :
    scheme (s ++ ':' :: rest) = s := before_append hs (some rest)

theorem host?_join {s : List Char} (hs : ':' ∉ s) (rest : List Char) :
    host? (s ++ ':' :: '/' :: '/' :: rest) = some (hostOf (authority rest)) := by
  unfold host?
  have hafter : after? ':' (s ++ ':' :: '/' :: '/' :: rest) = some ('/' :: '/' :: rest) :=
    after_append hs (some ('/' :: '/' :: rest))
  rw [hafter]
  rfl

/-- The authority ends where a character cannot stand in it. -/
theorem authority_append {auth rest : List Char} (hauth : ∀ c ∈ auth, isAuthorityChar c = true)
    (hrest : ∀ c ∈ rest.head?, isAuthorityChar c = false) : authority (auth ++ rest) = auth := by
  unfold authority
  rw [List.takeWhile_append_of_pos hauth]
  cases rest with
  | nil => exact List.append_nil auth
  | cons c rest =>
    have hc := hrest c rfl
    rw [List.takeWhile_cons_of_neg (by rw [hc]; exact Bool.false_ne_true), List.append_nil]

/-- What comes after the authority. -/
theorem exists_authority (rest : List Char) :
    ∃ tail, rest = authority rest ++ tail ∧ ∀ c ∈ tail.head?, isAuthorityChar c = false := by
  refine ⟨rest.dropWhile isAuthorityChar, List.takeWhile_append_dropWhile.symm, ?_⟩
  intro c hc
  cases htail : rest.dropWhile isAuthorityChar with
  | nil =>
    rw [htail] at hc
    cases hc
  | cons d tail =>
    have hd := List.head_dropWhile_not isAuthorityChar (l := rest) (by rw [htail]; exact nofun)
    rw [htail] at hc
    cases hc
    simpa only [htail, List.head_cons] using hd

/-- An initial part begins as the whole does. -/
theorem head?_of_initial {cs ds : List Char} (h : cs <+: ds) {c : Char} (hc : c ∈ cs.head?) :
    c ∈ ds.head? := by
  obtain ⟨rest, rfl⟩ := h
  cases cs with
  | nil => cases hc
  | cons d cs => exact hc

/-- **Trimming slashes keeps the host** of a URI with an authority. -/
theorem host?_trimEnd {s : List Char} (hs : ':' ∉ s) {rest : List Char} (hauth : authority rest ≠ []) :
    host? (trimEnd '/' (s ++ ':' :: '/' :: '/' :: rest)) = some (hostOf (authority rest)) ∧
      scheme (trimEnd '/' (s ++ ':' :: '/' :: '/' :: rest)) = s := by
  obtain ⟨tail, hrest, htail⟩ := exists_authority rest
  have hchars : ∀ c ∈ authority rest, isAuthorityChar c = true :=
    fun c hc => List.mem_takeWhile_imp hc
  have hslash : '/' ∉ authority rest := fun h => absurd (hchars _ h) (by decide)
  -- an authority does not end in a slash
  have hbare : Bare '/' ((s ++ [':', '/', '/']) ++ authority rest) := bare_append _ hauth hslash
  have htrim : trimEnd '/' (s ++ ':' :: '/' :: '/' :: rest) =
      s ++ ':' :: '/' :: '/' :: (authority rest ++ trimEnd '/' tail) := by
    have hsplit : s ++ ':' :: '/' :: '/' :: rest =
        ((s ++ [':', '/', '/']) ++ authority rest) ++ tail := by
      conv_lhs => rw [hrest]
      simp only [List.append_assoc, List.cons_append, List.nil_append]
    rw [hsplit, trimEnd_append hbare]
    simp only [List.append_assoc, List.cons_append, List.nil_append]
  rw [htrim, host?_join hs, authority_append hchars]
  · exact ⟨rfl, scheme_join hs _⟩
  · intro c hc
    exact htail c (head?_of_initial (List.rdropWhile_prefix _ _) hc)

/-- **Without an authority** trimming slashes leaves no host. -/
theorem host?_trimEnd_of_empty {s : List Char} (hs : ':' ∉ s) {rest : List Char}
    (hauth : authority rest = []) :
    host? (trimEnd '/' (s ++ ':' :: '/' :: '/' :: rest)) = none ∨
      host? (trimEnd '/' (s ++ ':' :: '/' :: '/' :: rest)) = some [] := by
  have htrim : trimEnd '/' (s ++ ':' :: '/' :: '/' :: rest) =
      s ++ marked ':' (some (trimEnd '/' ('/' :: '/' :: rest))) :=
    trimEnd_mark (by decide) s ('/' :: '/' :: rest)
  have hinit : trimEnd '/' ('/' :: '/' :: rest) <+: '/' :: '/' :: rest :=
    List.rdropWhile_prefix _ _
  rw [htrim]
  unfold host?
  rw [after_append hs]
  -- how much of the slashes is left
  cases hleft : trimEnd '/' ('/' :: '/' :: rest) with
  | nil => exact Or.inl rfl
  | cons c left =>
    rw [hleft, List.cons_prefix_cons] at hinit
    obtain ⟨rfl, hinit⟩ := hinit
    cases left with
    | nil => exact Or.inl rfl
    | cons d left =>
      rw [List.cons_prefix_cons] at hinit
      obtain ⟨rfl, hinit⟩ := hinit
      right
      have hempty : authority left = [] := by
        obtain ⟨tail, hrest, htail⟩ := exists_authority rest
        rw [hauth, List.nil_append] at hrest
        rw [hrest] at hinit
        exact authority_append (List.forall_mem_nil _) fun c hc => htail c (head?_of_initial hinit hc)
      show some (hostOf (authority left)) = some []
      rw [hempty]
      rfl

/-! ## §4. Dot segments -/

/-- A segment that names a directory by dots, encoded or not. -/
def isDotSegment (segment : List Char) : Bool :=
  [".".toList, "..".toList, "%2e".toList, "%2e.".toList, ".%2e".toList, "%2e%2e".toList].contains
    (segment.map Char.toLower)

/-- A path without dot segments. -/
def dotFree (path : List Char) : Bool := (path.splitOn '/').all fun segment => !isDotSegment segment

/-- **A path behind another**: a slash ends a segment. -/
theorem dotFree_append_slash (path rest : List Char) :
    dotFree (path ++ '/' :: rest) = (dotFree path && dotFree rest) := by
  unfold dotFree
  simp only [List.splitOn_eq_splitOnP]
  rw [List.splitOnP_append_cons (p := fun c => c == '/') path rest (beq_self_eq_true '/'),
    List.all_append]

theorem dotFree_slash (rest : List Char) : dotFree ('/' :: rest) = dotFree rest := by
  have h := dotFree_append_slash [] rest
  rw [List.nil_append] at h
  rw [h]
  exact Bool.true_and _

/-- Trimming slashes makes no dot segment. -/
theorem dotFree_trimEnd {path : List Char} (h : dotFree path = true) :
    dotFree (trimEnd '/' path) = true := by
  obtain ⟨rest, hpath, hrest⟩ := exists_trimmed '/' path
  cases rest with
  | nil =>
    rw [List.append_nil] at hpath
    exact hpath ▸ h
  | cons c rest =>
    rw [hrest c List.mem_cons_self] at hpath
    rw [hpath, dotFree_append_slash, Bool.and_eq_true] at h
    exact h.1

end ProviiSdk.UriSyntax
