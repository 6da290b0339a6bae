import AdapterRuntime.Lib.Languages
import AdapterRuntime.Proof.Grants

/-!
# AdapterRuntime — what the recognizers accept

The loops of `IsCanonicalIdentifier`, `IsCanonicalCapabilityId` and
`ValidateRuntimeTarget` against the languages they are meant for. A loop is compared
with the residual language at each of its flags; the comparison goes by induction on
the text that is left.

* `isCanonicalIdentifier_iff`, `isCanonicalCapabilityId_iff` — identifiers.
* `identifier_languages` — with the injectivity of `ContractKey`.
* `runtimeTarget_grammar` — runtime targets.
-/

namespace AdapterRuntime.Model

open AdapterRuntime.Lib Computability

variable {value : Text}

-- ---------------------------------------------------------------------------
-- Identifiers
-- ---------------------------------------------------------------------------

/-- `[a-z]`. -/
def lowerAlphas : Language UInt8 := oneOf isLowerAlpha

/-- `[a-z0-9]`. -/
def alphanumerics : Language UInt8 := oneOf fun c => isLowerAlpha c || isDigit c

/-- `[._-]`. -/
def separators : Language UInt8 :=
  oneOf fun c => c == ascii '.' || c == ascii '_' || c == ascii '-'

/-- `[a-z0-9]*([._-][a-z0-9]+)*`. -/
def identifierTails : Language UInt8 :=
  alphanumerics∗ * (separators * (alphanumerics * alphanumerics∗))∗

/-- `[a-z][a-z0-9]*([._-][a-z0-9]+)*`. -/
def identifiers : Language UInt8 := lowerAlphas * identifierTails

/-- A tail is empty, or it starts with a separator and an alphanumeric, or with an
alphanumeric. -/
theorem identifierTails_unfold : identifierTails =
    1 + separators * (alphanumerics * identifierTails) + alphanumerics * identifierTails := by
  have hStar := Language.one_add_self_mul_kstar_eq_kstar alphanumerics
  have hGroups := Language.one_add_self_mul_kstar_eq_kstar
    (separators * (alphanumerics * alphanumerics∗))
  calc identifierTails
      = (1 + alphanumerics * alphanumerics∗) *
          (separators * (alphanumerics * alphanumerics∗))∗ := by rw [hStar, identifierTails]
    _ = (separators * (alphanumerics * alphanumerics∗))∗ + alphanumerics * identifierTails := by
        rw [add_mul, one_mul, mul_assoc, identifierTails]
    _ = 1 + separators * (alphanumerics * identifierTails) + alphanumerics * identifierTails := by
        nth_rewrite 1 [← hGroups]
        simp only [mul_assoc, identifierTails]

/-- Nothing has to follow the first segment. -/
theorem nil_mem_identifierTails : [] ∈ identifierTails := by
  rw [identifierTails_unfold, Language.mem_add, Language.mem_add]
  exact .inl (.inl Language.nil_mem_one)

/-- What follows a letter of an identifier: a separator with another segment, or more letters. -/
theorem cons_mem_identifierTails {c : UInt8} {rest : Text} : c :: rest ∈ identifierTails ↔
    ((c == ascii '.' || c == ascii '_' || c == ascii '-') = true ∧
      rest ∈ alphanumerics * identifierTails) ∨
    ((isLowerAlpha c || isDigit c) = true ∧ rest ∈ identifierTails) := by
  nth_rewrite 1 [identifierTails_unfold]
  rw [Language.mem_add, Language.mem_add, Language.mem_one, separators, cons_mem_oneOf_mul]
  nth_rewrite 2 [alphanumerics]
  rw [cons_mem_oneOf_mul]
  simp

/-- The character loop accepts the tail of an identifier; right after a separator the
tail has to start with an alphanumeric. -/
theorem identifierLoop_iff (value : Text) :
    (identifierLoop false value = true ↔ value ∈ identifierTails) ∧
    (identifierLoop true value = true ↔ value ∈ alphanumerics * identifierTails) := by
  induction value with
  | nil => simp [identifierLoop, nil_mem_identifierTails, alphanumerics]
  | cons c rest ih =>
    obtain ⟨hFalse, hTrue⟩ := ih
    have hCons : c :: rest ∈ alphanumerics * identifierTails ↔
        (isLowerAlpha c || isDigit c) = true ∧ rest ∈ identifierTails := by
      rw [alphanumerics, cons_mem_oneOf_mul]
    rw [hCons, cons_mem_identifierTails]
    -- a character is an alphanumeric, a separator or neither
    cases hAlpha : isLowerAlpha c || isDigit c with
    | true =>
      have hSep : (c == ascii '.' || c == ascii '_' || c == ascii '-') = false := by
        by_contra hNot
        simp only [Bool.not_eq_false, Bool.or_eq_true, beq_iff_eq] at hNot
        obtain (rfl | rfl) | rfl := hNot <;> exact absurd hAlpha (by decide)
      simp [identifierLoop, hAlpha, hSep, hFalse]
    | false =>
      cases hSep : c == ascii '.' || c == ascii '_' || c == ascii '-' with
      | true => simp [identifierLoop, hAlpha, hSep, hTrue]
      | false => simp [identifierLoop, hAlpha, hSep]

/-- `IsCanonicalIdentifier` accepts exactly the identifiers. -/
theorem isCanonicalIdentifier_iff : isCanonicalIdentifier value = true ↔ value ∈ identifiers := by
  cases value with
  | nil => simp [isCanonicalIdentifier, identifiers, lowerAlphas]
  | cons c rest =>
    simp only [isCanonicalIdentifier, identifiers, lowerAlphas, cons_mem_oneOf_mul,
      Bool.and_eq_true]
    refine and_congr_right fun hAlpha => ?_
    rw [identifierLoop, if_pos (by simp [hAlpha])]
    exact (identifierLoop_iff rest).1

-- ---------------------------------------------------------------------------
-- Capability ids
-- ---------------------------------------------------------------------------

/-- The segment starts with a lowercase letter. -/
def StartsLower (segment : Text) : Prop := ∃ c rest, segment = c :: rest ∧ isLowerAlpha c = true

theorem not_startsLower_nil : ¬StartsLower [] := by
  rintro ⟨c, rest, hEq, -⟩
  cases hEq

theorem startsLower_cons {c : UInt8} {rest : Text} :
    StartsLower (c :: rest) ↔ isLowerAlpha c = true := by
  constructor
  · rintro ⟨d, tail, hEq, hLower⟩
    rw [(List.cons.inj hEq).1]
    exact hLower
  · exact fun hLower => ⟨c, rest, rfl, hLower⟩

/-- A text does not end in a dot when its rest does not. -/
theorem getLast_cons_ne_dot {c : UInt8} {rest : Text} (hDot : c ≠ ascii '.') :
    (c :: rest).getLast? ≠ some (ascii '.') ↔ rest.getLast? ≠ some (ascii '.') := by
  cases rest with
  | nil => simp [hDot]
  | cons d tail => rw [List.getLast?_cons_cons]

/-- The index loop on a text that does not end in a dot: it has checked the first
character of every segment, apart from the first one when it starts inside it. -/
theorem segmentHeads_iff (value : Text) :
    (segmentHeads false value = true ∧ value.getLast? ≠ some (ascii '.') ↔
      ∀ segment ∈ (value.splitOn (ascii '.')).tail, StartsLower segment) ∧
    (segmentHeads true value = true ∧ value ≠ [] ∧ value.getLast? ≠ some (ascii '.') ↔
      ∀ segment ∈ value.splitOn (ascii '.'), StartsLower segment) := by
  induction value with
  | nil => simp [segmentHeads, not_startsLower_nil]
  | cons c rest ih =>
    obtain ⟨hInside, hStart⟩ := ih
    rw [List.splitOn_cons_eq_if_modifyHead]
    by_cases hDot : c = ascii '.'
    · subst hDot
      have hLast : (ascii '.' :: rest).getLast? ≠ some (ascii '.') ↔
          rest ≠ [] ∧ rest.getLast? ≠ some (ascii '.') := by
        cases rest with
        | nil => simp
        | cons d tail => simp [List.getLast?_cons_cons]
      simp only [beq_self_eq_true, if_true, List.tail_cons, List.forall_mem_cons]
      refine ⟨?_, ?_⟩
      · rw [hLast, ← hStart]
        simp [segmentHeads]
      · have hNot : isLowerAlpha (ascii '.') = false := by decide
        simp [segmentHeads, hNot, not_startsLower_nil]
    · have hBeq : (c == ascii '.') = false := by simp [hDot]
      cases hSplit : rest.splitOn (ascii '.') with
      | nil => exact absurd hSplit (List.splitOn_ne_nil _ _)
      | cons first others =>
        rw [hSplit] at hInside
        simp only [hBeq, Bool.false_eq_true, if_false, List.modifyHead_cons, List.tail_cons,
          List.forall_mem_cons, startsLower_cons] at hInside ⊢
        rw [getLast_cons_ne_dot hDot]
        refine ⟨?_, ?_⟩
        · rw [← hInside]
          simp [segmentHeads, hBeq]
        · rw [← hInside]
          simp [segmentHeads, hBeq, and_assoc]

/-- A text that the character loop accepts does not end in a separator. -/
theorem identifierLoop_last {flag : Bool} (h : identifierLoop flag value = true) :
    value.getLast? ≠ some (ascii '.') := by
  induction value generalizing flag with
  | nil => simp
  | cons c rest ih =>
    rw [identifierLoop] at h
    split at h
    · rename_i hAlpha
      have hDot : c ≠ ascii '.' := by
        rintro rfl
        exact absurd hAlpha (by decide)
      rw [getLast_cons_ne_dot hDot]
      exact ih h
    · split at h
      · cases rest with
        | nil => cases h
        | cons d tail =>
          rw [List.getLast?_cons_cons]
          exact ih h
      · cases h

/-- An identifier is not empty and does not end in a dot. -/
theorem identifier_last (h : isCanonicalIdentifier value = true) :
    value ≠ [] ∧ value.getLast? ≠ some (ascii '.') := by
  cases value with
  | nil => cases h
  | cons c rest =>
    simp only [isCanonicalIdentifier, Bool.and_eq_true] at h
    exact ⟨by simp, identifierLoop_last h.2⟩

/-- A text has two segments or more when it has a dot. -/
theorem two_le_length_splitOn :
    2 ≤ (value.splitOn (ascii '.')).length ↔ ascii '.' ∈ value := by
  induction value with
  | nil => simp
  | cons c rest ih =>
    have hPos := List.length_pos_of_ne_nil (List.splitOn_ne_nil (ascii '.') rest)
    rw [List.splitOn_cons_eq_if_modifyHead]
    by_cases hDot : c = ascii '.'
    · subst hDot
      simp only [beq_self_eq_true, if_true, List.length_cons, List.mem_cons, true_or, iff_true]
      omega
    · simp only [beq_iff_eq, hDot, if_false, List.length_modifyHead, List.mem_cons, ih]
      simp [Ne.symm hDot]

/-- `IsCanonicalCapabilityId` accepts the identifiers with at least two segments, each
with a lowercase letter in front. -/
theorem isCanonicalCapabilityId_iff : isCanonicalCapabilityId value = true ↔
    value ∈ identifiers ∧ 2 ≤ (value.splitOn (ascii '.')).length ∧
      ∀ segment ∈ value.splitOn (ascii '.'), StartsLower segment := by
  simp only [isCanonicalCapabilityId, Bool.and_eq_true, List.contains_iff_mem]
  rw [← isCanonicalIdentifier_iff, two_le_length_splitOn, ← (segmentHeads_iff value).2]
  constructor
  · rintro ⟨⟨hDot, hIdentifier⟩, hHeads⟩
    exact ⟨hIdentifier, hDot, hHeads, identifier_last hIdentifier⟩
  · rintro ⟨hIdentifier, hDot, hHeads, -⟩
    exact ⟨⟨hDot, hIdentifier⟩, hHeads⟩

-- ---------------------------------------------------------------------------
-- Contract keys
-- ---------------------------------------------------------------------------

/-- The recognizers accept exactly their languages, no accepted capability id has a
newline, and the contract key tells accepted ids, versions and digests apart. -/
theorem identifier_languages :
    (∀ value, isCanonicalIdentifier value = true ↔ value ∈ identifiers) ∧
    (∀ value, isCanonicalCapabilityId value = true ↔
      value ∈ identifiers ∧ 2 ≤ (value.splitOn (ascii '.')).length ∧
        ∀ segment ∈ value.splitOn (ascii '.'), StartsLower segment) ∧
    (∀ value, isCanonicalCapabilityId value = true → 10 ∉ value) ∧
    Set.InjOn (fun key : Text × Nat × Text => contractKey key.1 key.2.1 key.2.2)
      {key | isCanonicalCapabilityId key.1 = true} := by
  refine ⟨fun value => isCanonicalIdentifier_iff, fun value => isCanonicalCapabilityId_iff,
    fun value hId => newline_not_mem_capabilityId hId, ?_⟩
  rintro ⟨id, version, digest⟩ hId ⟨id', version', digest'⟩ hId' hEq
  obtain ⟨rfl, rfl, rfl⟩ := contractKey_inj (newline_not_mem_capabilityId hId)
    (newline_not_mem_capabilityId hId') hEq
  rfl

-- ---------------------------------------------------------------------------
-- Runtime targets
-- ---------------------------------------------------------------------------

/-- A path component: not empty, without a slash, and neither `.` nor `..`. -/
def components : Language UInt8 :=
  {w | w ≠ [] ∧ ascii '/' ∉ w ∧ w ≠ text "." ∧ w ≠ text ".."}

/-- A slash and a component. -/
def slashComponents : Language UInt8 := oneOf (· == ascii '/') * components

/-- One or more repetitions of a slash and a component. -/
def socketPaths : Language UInt8 := slashComponents * slashComponents∗

/-- `unix:` or `unix://`, and a path. -/
def runtimeTargets : Language UInt8 := ({text "unix:"} + {text "unix://"}) * socketPaths

/-- A component is not empty, has no slash and is no dot name. -/
theorem mem_components {w : Text} : w ∈ components ↔
    w ≠ [] ∧ ascii '/' ∉ w ∧ w ≠ text "." ∧ w ≠ text ".." := Iff.rfl

/-- A path starts with a slash and a component. -/
theorem cons_mem_slashComponents_mul {c : UInt8} {rest : Text} {l : Language UInt8} :
    c :: rest ∈ slashComponents * l ↔ c = ascii '/' ∧ rest ∈ components * l := by
  rw [slashComponents, mul_assoc, cons_mem_oneOf_mul, beq_iff_eq]

/-- A path is not empty. -/
theorem nil_notMem_slashComponents_mul {l : Language UInt8} : [] ∉ slashComponents * l := by
  rw [slashComponents, mul_assoc]
  exact nil_notMem_oneOf_mul

/-- What follows a component starts with a slash, so that the component can be read off. -/
theorem takeWhile_component {w rest : Text} (hComponent : w ∈ components)
    (hRest : rest ∈ slashComponents∗) :
    (w ++ rest).takeWhile (· != ascii '/') = w := by
  have hAll : ∀ c ∈ w, (c != ascii '/') = true := by
    intro c hc
    simp only [bne_iff_ne, ne_eq]
    rintro rfl
    exact hComponent.2.1 hc
  rw [List.takeWhile_append_of_pos hAll]
  cases rest with
  | nil => simp
  | cons c tail =>
    obtain hEmpty | hMore := mem_kstar_iff.mp hRest
    · cases hEmpty
    · rw [(cons_mem_slashComponents_mul.mp hMore).1]
      simp

/-- A path that is left is a component, or a component, a slash and a path that is left. -/
theorem mem_components_mul_iff {rest : Text} : rest ∈ components * slashComponents∗ ↔
    rest.takeWhile (· != ascii '/') ∈ components ∧
      (rest.takeWhile (· != ascii '/') = rest ∨
        ∃ tail, rest = rest.takeWhile (· != ascii '/') ++ ascii '/' :: tail ∧
          tail ∈ components * slashComponents∗) := by
  constructor
  · intro hMem
    obtain ⟨w, hw, more, hMore, rfl⟩ := Language.mem_mul.mp hMem
    rw [takeWhile_component hw hMore]
    refine ⟨hw, ?_⟩
    obtain rfl | hNext := mem_kstar_iff.mp hMore
    · exact .inl (by simp)
    · cases more with
      | nil => exact absurd hNext nil_notMem_slashComponents_mul
      | cons c tail =>
        obtain ⟨rfl, hTail⟩ := cons_mem_slashComponents_mul.mp hNext
        exact .inr ⟨tail, rfl, hTail⟩
  · rintro ⟨hComponent, hWhole | ⟨tail, hSplit, hTail⟩⟩
    · rw [hWhole] at hComponent
      exact Language.mem_mul.mpr ⟨rest, hComponent, [], Language.nil_mem_kstar _, by simp⟩
    · refine Language.mem_mul.mpr ⟨_, hComponent, ascii '/' :: tail, ?_, hSplit.symm⟩
      exact mem_kstar_iff.mpr (.inr (cons_mem_slashComponents_mul.mpr ⟨rfl, hTail⟩))

/-- A text that is longer than its first component has a slash after it. -/
theorem split_of_longer {rest : Text}
    (h : (rest.takeWhile (· != ascii '/')).length ≠ rest.length) :
    rest = rest.takeWhile (· != ascii '/') ++ ascii '/' ::
      rest.drop ((rest.takeWhile (· != ascii '/')).length + 1) := by
  have hSplit := List.takeWhile_append_dropWhile (p := (· != ascii '/')) (l := rest)
  cases hDrop : rest.dropWhile (· != ascii '/') with
  | nil =>
    rw [hDrop, List.append_nil] at hSplit
    rw [hSplit] at h
    exact absurd rfl h
  | cons c tail =>
    have hSlash : (c != ascii '/') = false := by
      have hHead := List.head?_dropWhile_not (· != ascii '/') rest
      rw [hDrop] at hHead
      simpa using hHead
    rw [hDrop] at hSplit
    have hc : c = ascii '/' := by simpa using hSlash
    subst hc
    generalize rest.takeWhile (· != ascii '/') = component at hSplit
    subst hSplit
    simp

theorem component_bad_iff {component : Text} (hSlash : ascii '/' ∉ component) :
    (component.isEmpty || component == text "." || component == text "..") = true ↔
      component ∉ components := by
  rw [mem_components]
  simp only [Bool.or_eq_true, List.isEmpty_iff, beq_iff_eq]
  tauto

/-- A component ends before the slash. -/
theorem slash_notMem_takeWhile (rest : Text) :
    ascii '/' ∉ rest.takeWhile (· != ascii '/') := by
  intro hMem
  have hNot := List.all_eq_true.mp List.all_takeWhile _ hMem
  simp at hNot

/-- With a turn for every byte, the component loop accepts exactly the paths. -/
theorem componentLoop_iff {fuel : Nat} {rest : Text} (hFuel : rest.length ≤ fuel)
    (hNonempty : rest ≠ []) (hLast : rest.getLast? ≠ some (ascii '/')) :
    componentLoop fuel rest = true ↔ rest ∈ components * slashComponents∗ := by
  induction fuel generalizing rest with
  | zero => exact absurd (List.length_eq_zero_iff.mp (Nat.le_zero.mp hFuel)) hNonempty
  | succ fuel ih =>
    rw [componentLoop, if_neg (by simp [hNonempty]), mem_components_mul_iff]
    simp only
    split
    · rename_i hBad
      have hNot := (component_bad_iff (slash_notMem_takeWhile rest)).mp hBad
      simp [hNot]
    · rename_i hGood
      rw [component_bad_iff (slash_notMem_takeWhile rest), not_not] at hGood
      split
      · rename_i hWhole
        have hEq := List.IsPrefix.eq_of_length (List.takeWhile_prefix _) (by simpa using hWhole)
        rw [hEq] at hGood
        simp [hEq, hGood]
      · rename_i hLonger
        have hSplit := split_of_longer (by simpa using hLonger)
        generalize rest.drop ((rest.takeWhile (· != ascii '/')).length + 1) = next at hSplit ⊢
        have hNe : rest.takeWhile (· != ascii '/') ≠ rest := by
          intro hEq
          rw [hEq] at hLonger
          simp at hLonger
        have hNext : next ≠ [] := by
          rintro rfl
          rw [hSplit] at hLast
          simp at hLast
        have hLastNext : next.getLast? ≠ some (ascii '/') := by
          rw [hSplit, List.getLast?_append_of_ne_nil _ (by simp)] at hLast
          rwa [List.getLast?_cons_of_ne_nil hNext] at hLast
        have hLength : next.length ≤ fuel := by
          have hLen := congrArg List.length hSplit
          simp only [List.length_append, List.length_cons] at hLen
          omega
        rw [ih hLength hNext hLastNext]
        constructor
        · exact fun hMem => ⟨hGood, .inr ⟨next, hSplit, hMem⟩⟩
        · rintro ⟨-, hWhole | ⟨tail, hTail, hMem⟩⟩
          · exact absurd hWhole hNe
          · have hEq := hSplit.symm.trans hTail
            rw [List.append_cancel_left_eq, List.cons.injEq] at hEq
            rwa [hEq.2]

/-- A path starts with a slash, goes on and does not end in one. -/
theorem socketPath_shape {path : Text} (h : path ∈ socketPaths) :
    ∃ rest, path = ascii '/' :: rest ∧ rest ≠ [] ∧ rest.getLast? ≠ some (ascii '/') ∧
      rest ∈ components * slashComponents∗ := by
  cases path with
  | nil => exact absurd h nil_notMem_slashComponents_mul
  | cons c rest =>
    obtain ⟨rfl, hRest⟩ := cons_mem_slashComponents_mul.mp h
    -- read from the other end, a path is a path and a last component
    have hBack : ascii '/' :: rest ∈ slashComponents∗ * slashComponents := by
      rwa [Language.mul_self_kstar_comm]
    obtain ⟨front, -, last, hLast, hEq⟩ := Language.mem_mul.mp hBack
    obtain ⟨_, ⟨slash, -, rfl⟩, component, hComponent, rfl⟩ := Language.mem_mul.mp hLast
    have hEnd : (ascii '/' :: rest).getLast? = component.getLast? := by
      rw [← hEq, ← List.append_assoc, List.getLast?_append_of_ne_nil _ hComponent.1]
    have hNe : rest ≠ [] := by
      rintro rfl
      have hSlash : ascii '/' ∈ component := List.mem_of_getLast? (hEnd.symm.trans rfl)
      exact hComponent.2.1 hSlash
    refine ⟨rest, rfl, hNe, fun hSlash => ?_, hRest⟩
    rw [List.getLast?_cons_of_ne_nil hNe, hSlash] at hEnd
    exact hComponent.2.1 (List.mem_of_getLast? hEnd.symm)

/-- The checks on the socket path. -/
theorem socketPath_iff {path : Text} :
    (path.length ≤ 1 || path.head? != some (ascii '/') || path.getLast? == some (ascii '/') ||
      !componentLoop path.length (path.drop 1)) = false ↔ path ∈ socketPaths := by
  constructor
  · intro h
    simp only [Bool.or_eq_false_iff, decide_eq_false_iff_not, not_le, bne_eq_false_iff_eq,
      beq_eq_false_iff_ne, Bool.not_eq_false'] at h
    obtain ⟨⟨⟨hLength, hHead⟩, hLast⟩, hLoop⟩ := h
    cases path with
    | nil => cases hHead
    | cons c rest =>
      have hNe : rest ≠ [] := by
        rintro rfl
        simp at hLength
      rw [List.getLast?_cons_of_ne_nil hNe] at hLast
      rw [List.drop_one, List.tail_cons, componentLoop_iff (by simp) hNe hLast] at hLoop
      exact cons_mem_slashComponents_mul.mpr ⟨Option.some.inj hHead, hLoop⟩
  · intro h
    obtain ⟨rest, rfl, hNe, hLast, hRest⟩ := socketPath_shape h
    have hLoop : componentLoop (rest.length + 1) rest = true :=
      (componentLoop_iff (by simp) hNe hLast).mpr hRest
    have hLength := List.length_pos_of_ne_nil hNe
    simp only [Bool.or_eq_false_iff, decide_eq_false_iff_not, not_le, bne_eq_false_iff_eq,
      beq_eq_false_iff_ne, Bool.not_eq_false', List.getLast?_cons_of_ne_nil hNe, List.length_cons]
    exact ⟨⟨⟨by omega, rfl⟩, hLast⟩, hLoop⟩

/-- The text starts with the literal. -/
theorem take_eq_iff (scheme : Text) {n : Nat} (hLength : scheme.length = n) {value : Text} :
    value.take n = scheme ↔ ∃ rest, value = scheme ++ rest := by
  subst hLength
  constructor
  · intro hTake
    refine ⟨value.drop scheme.length, ?_⟩
    nth_rewrite 1 [← List.take_append_drop scheme.length value]
    rw [hTake]
  · rintro ⟨rest, rfl⟩
    simp

/-- No path starts with two slashes. -/
theorem slashes_notMem_socketPaths (rest : Text) :
    ascii '/' :: ascii '/' :: rest ∉ socketPaths := by
  intro h
  obtain ⟨_, hEq, -, -, hRest⟩ := socketPath_shape h
  rw [← (List.cons.inj hEq).2] at hRest
  have hComponent := (mem_components_mul_iff.mp hRest).1
  simp [mem_components] at hComponent

/-- `ValidateRuntimeTarget` accepts exactly the runtime targets. -/
theorem validateRuntimeTarget_iff {target : Text} :
    validateRuntimeTarget target = .ok () ↔ target ∈ runtimeTargets := by
  have hShort : text "unix://" = text "unix:" ++ [ascii '/', ascii '/'] := by decide
  rw [runtimeTargets, add_mul, Language.mem_add, mem_singleton_mul, mem_singleton_mul]
  have hDecide : ∀ path : Text, (if (path.length ≤ 1 || path.head? != some (ascii '/') ||
      path.getLast? == some (ascii '/') || !componentLoop path.length (path.drop 1)) = true then
        (.error (text "unix target must contain a canonical absolute socket path") :
          Except Text Unit)
      else .ok ()) = .ok () ↔ path ∈ socketPaths := by
    intro path
    rw [← socketPath_iff]
    split
    · rename_i hBad
      rw [hBad]
      simp
    · rename_i hGood
      simpa only [Bool.not_eq_true, true_iff] using hGood
  unfold validateRuntimeTarget
  by_cases hLong : target.take 7 = text "unix://"
  · obtain ⟨path, rfl⟩ := (take_eq_iff (text "unix://") (by decide)).mp hLong
    rw [if_pos (by simpa using hLong)]
    have hDrop : (text "unix://" ++ path).drop 7 = path :=
      List.drop_left' (by decide)
    simp only [hDrop]
    rw [hDecide]
    -- the rest is a socket path; the short scheme does not fit
    constructor
    · exact fun hPath => .inr ⟨path, hPath, rfl⟩
    · rintro (⟨other, hOther, hEq⟩ | ⟨other, hOther, hEq⟩)
      · rw [hShort, List.append_assoc, List.append_cancel_left_eq] at hEq
        rw [← hEq] at hOther
        exact absurd hOther (slashes_notMem_socketPaths path)
      · rw [List.append_cancel_left_eq] at hEq
        rwa [hEq]
  · rw [if_neg (by simpa using hLong)]
    have hNotLong : ∀ path, target ≠ text "unix://" ++ path := fun path hEq =>
      hLong ((take_eq_iff (text "unix://") (by decide)).mpr ⟨path, hEq⟩)
    by_cases hScheme : target.take 5 = text "unix:"
    · obtain ⟨path, rfl⟩ := (take_eq_iff (text "unix:") (by decide)).mp hScheme
      rw [if_pos (by simpa using hScheme)]
      have hDrop : (text "unix:" ++ path).drop 5 = path :=
        List.drop_left' (by decide)
      simp only [hDrop]
      rw [hDecide]
      constructor
      · exact fun hPath => .inl ⟨path, hPath, rfl⟩
      · rintro (⟨other, hOther, hEq⟩ | ⟨other, -, hEq⟩)
        · rw [List.append_cancel_left_eq] at hEq
          rwa [hEq]
        · exact absurd hEq (hNotLong other)
    · rw [if_neg (by simpa using hScheme)]
      constructor
      · intro hOk
        cases hOk
      · rintro (⟨path, -, hEq⟩ | ⟨path, -, hEq⟩)
        · exact absurd ((take_eq_iff (text "unix:") (by decide)).mpr ⟨path, hEq⟩) hScheme
        · exact absurd hEq (hNotLong path)

/-- One turn of the component loop at `component_start`: the next start, or the result
the loop leaves with. -/
def componentTurn (path : Text) (start : Nat) : Nat ⊕ Bool :=
  if path.length ≤ start then .inr true
  else
    let component := (path.drop start).takeWhile (· != ascii '/')
    if component.isEmpty || component == text "." || component == text ".." then .inr false
    else if component.length == (path.drop start).length then .inr true
    else .inl (start + component.length + 1)

/-- The component loop, entered at `start`, leaves with `result` after finitely many
turns. -/
inductive ComponentRun (path : Text) : Nat → Bool → Prop
  | leave {start : Nat} {result : Bool} (hTurn : componentTurn path start = .inr result) :
      ComponentRun path start result
  | turn {start next : Nat} {result : Bool} (hTurn : componentTurn path start = .inl next)
      (hNext : ComponentRun path next result) : ComponentRun path start result

/-- The loop leaves on every path, with the result of the model. -/
theorem componentRun {path : Text} {fuel start : Nat} (hFuel : path.length ≤ fuel + start) :
    ComponentRun path start (componentLoop fuel (path.drop start)) := by
  induction fuel generalizing start with
  | zero =>
    refine .leave ?_
    rw [componentTurn, if_pos (by omega)]
    rfl
  | succ fuel ih =>
    by_cases hEnd : path.length ≤ start
    · refine .leave ?_
      rw [componentTurn, if_pos hEnd, List.drop_eq_nil_of_le hEnd]
      rfl
    · have hNonempty : (path.drop start).isEmpty = false := by
        simpa using hEnd
      rw [componentLoop, if_neg (by simp [hNonempty])]
      simp only
      split
      · rename_i hBad
        refine .leave ?_
        rw [componentTurn, if_neg hEnd]
        simp only
        rw [if_pos hBad]
      · rename_i hGood
        split
        · rename_i hWhole
          refine .leave ?_
          rw [componentTurn, if_neg hEnd]
          simp only
          rw [if_neg hGood, if_pos hWhole]
        · rename_i hLonger
          refine @ComponentRun.turn path start
            (start + ((path.drop start).takeWhile (· != ascii '/')).length + 1) _ ?_ ?_
          · rw [componentTurn, if_neg hEnd]
            simp only
            rw [if_neg hGood, if_neg hLonger]
          · rw [List.drop_drop, ← Nat.add_assoc]
            exact ih (by omega)

/-- `ValidateRuntimeTarget` accepts exactly `unix:` or `unix://` and a path of components,
and its component loop leaves on every path. -/
theorem runtimeTarget_grammar :
    (∀ target, validateRuntimeTarget target = .ok () ↔ target ∈ runtimeTargets) ∧
    ∀ path : Text, ComponentRun path 1 (componentLoop path.length (path.drop 1)) :=
  ⟨fun _ => validateRuntimeTarget_iff, fun _ => componentRun (by omega)⟩

end AdapterRuntime.Model
