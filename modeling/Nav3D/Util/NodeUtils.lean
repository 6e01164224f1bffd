/-
Nav3D.Util.NodeUtils — `add_namespaces` (`nav3d_util/src/node_utils.cpp`).

A `std::string` is the list of its characters. The namespace above loses the
slashes at its end, but the loop keeps the last character that is left: the
root stays `/`, and the slash that is put before the names below is a second
one. With any other namespace above, the two are joined with one slash
(`addNamespaces_eq`).
-/
import Nav3D.Lib.Separator

namespace Nav3D.Util

open Separator

/-! ## The code -/

/-- `while (t.size() > 1 && t.back() == '/') t.pop_back();` -/
def popSlashes (t : List Char) : List Char :=
  if 1 < t.length ∧ t.getLast? = some '/' then popSlashes t.dropLast else t
termination_by t.length
decreasing_by
  rw [List.length_dropLast]
  omega

/-- `while (!s.empty() && s.front() == '/') s.erase(s.begin());` -/
def eraseSlashes : List Char → List Char
  | [] => []
  | c :: s => if c = '/' then eraseSlashes s else c :: s

/-- `add_namespaces(top_ns, sub_ns)`. -/
def addNamespaces (topNs subNs : List Char) : List Char :=
  let t := if topNs ≠ [] ∧ topNs.head? ≠ some '/' then '/' :: topNs else topNs
  let t := popSlashes t
  let s := eraseSlashes subNs
  if s = [] then
    if t = [] then ['/'] else t
  else if t = [] then '/' :: s
  else t ++ '/' :: s

/-! ## The loops -/

theorem eraseSlashes_eq (s : List Char) : eraseSlashes s = trimLeft '/' s := by
  induction s with
  | nil => rfl
  | cons c s ih =>
    by_cases hc : c = '/'
    · rw [eraseSlashes, if_pos hc, ih, hc, trimLeft_cons_self]
    · rw [eraseSlashes, if_neg hc, trimLeft_cons_of_ne hc]

theorem popSlashes_nil : popSlashes [] = [] := by simp [popSlashes]

/-- The first character stays. By induction from the right end. -/
theorem popSlashes_cons (c : Char) (t : List Char) :
    popSlashes (c :: t) = c :: trimRight '/' t := by
  induction t using List.reverseRecOn with
  | nil => simp [popSlashes]
  | append_singleton t d ih =>
    rw [← List.cons_append, popSlashes, List.getLast?_concat, List.dropLast_concat]
    by_cases hd : d = '/'
    · subst hd
      rw [if_pos (by simp), ih, trimRight_concat_self]
    · rw [if_neg (by simp [hd]), trimRight_concat_of_ne hd, List.cons_append]

/-! ## What it computes -/

/-- Names below a root that is written as slashes. -/
def DoublesRoot (topNs subNs : List Char) : Prop :=
  topNs ≠ [] ∧ Blank '/' topNs ∧ ¬ Blank '/' subNs

instance (topNs subNs : List Char) : Decidable (DoublesRoot topNs subNs) :=
  inferInstanceAs (Decidable (_ ∧ _ ∧ _))

/-- The namespaces are joined, with a slash too many below the root. -/
theorem addNamespaces_eq (topNs subNs : List Char) : addNamespaces topNs subNs =
    if DoublesRoot topNs subNs then '/' :: join '/' topNs subNs else join '/' topNs subNs := by
  by_cases htop : topNs = []
  · subst htop
    have hnot : ¬ DoublesRoot [] subNs := fun h => h.1 rfl
    have hstem : stem '/' ([] : List Char) = [] := stem_eq_nil.mpr blank_nil
    rw [if_neg hnot]
    by_cases hsub : Blank '/' subNs
    · simp [addNamespaces, popSlashes_nil, eraseSlashes_eq, trimLeft_eq_nil.mpr hsub,
        join_of_blank hsub, hstem, orRoot]
    · have hne : trimLeft '/' subNs ≠ [] := by rwa [Ne, trimLeft_eq_nil]
      simp [addNamespaces, popSlashes_nil, eraseSlashes_eq, hne, join_of_not_blank hsub, hstem]
  · have hfirst : (if topNs ≠ [] ∧ topNs.head? ≠ some '/' then '/' :: topNs else topNs) =
        absolute '/' topNs := by
      simp [absolute, htop]
    obtain ⟨rest, hrest⟩ : ∃ rest, absolute '/' topNs = '/' :: rest := exists_absolute topNs
    have hblank : Blank '/' topNs ↔ Blank '/' rest := by
      rw [← blank_absolute, hrest]
      simp
    simp only [addNamespaces, hfirst, hrest, popSlashes_cons, eraseSlashes_eq, trimLeft_eq_nil,
      reduceCtorEq, if_false]
    by_cases hroot : Blank '/' topNs
    · -- the slash that is kept is the root
      have hkept : trimRight '/' rest = [] := trimRight_eq_nil.mpr (hblank.mp hroot)
      have hstem : stem '/' topNs = [] := stem_eq_nil.mpr hroot
      by_cases hsub : Blank '/' subNs
      · simp [DoublesRoot, hsub, hkept, join_of_blank hsub, hstem, orRoot]
      · simp [DoublesRoot, htop, hroot, hsub, hkept, join_of_not_blank hsub, hstem]
    · have hstem : stem '/' topNs = '/' :: trimRight '/' rest := by
        rw [stem, hrest, trimRight_cons (by rwa [← hblank])]
      by_cases hsub : Blank '/' subNs
      · simp [DoublesRoot, hsub, join_of_blank hsub, hstem, orRoot]
      · simp [DoublesRoot, hroot, hsub, join_of_not_blank hsub, hstem]

/-- No name is lost, whatever the slashes. -/
theorem names_addNamespaces (topNs subNs : List Char) :
    names '/' (addNamespaces topNs subNs) = names '/' topNs ++ names '/' subNs := by
  rw [addNamespaces_eq]
  split
  · rw [names_cons_self, names_join]
  · exact names_join topNs subNs

/-! ## One slash at the junction -/

/-- What is asked of a joined namespace: it is absolute; with a name below it
is the namespace above with a slash at the start and none at the end, one
slash, and the namespace below from its first name on; and then no name up to
that one is empty, unless the namespace above has an empty one. -/
structure JoinsWithOneSlash (topNs subNs : List Char) : Prop where
  absolute : (addNamespaces topNs subNs).head? = some '/'
  joined : ¬ Blank '/' subNs →
    addNamespaces topNs subNs = stem '/' topNs ++ '/' :: trimLeft '/' subNs
  no_empty_name : ¬ Blank '/' subNs → ¬ Doubled '/' (trimRight '/' topNs) →
    ∃ upTo c rest, addNamespaces topNs subNs = upTo ++ c :: rest ∧
      trimLeft '/' subNs = c :: rest ∧ ¬ Doubled '/' (upTo ++ [c])

theorem joinsWithOneSlash_iff (topNs subNs : List Char) :
    JoinsWithOneSlash topNs subNs ↔ ¬ DoublesRoot topNs subNs := by
  constructor
  · intro h hroot
    have heq := h.joined hroot.2.2
    rw [addNamespaces_eq, if_pos hroot, join_of_not_blank hroot.2.2] at heq
    have hlength := congrArg List.length heq
    simp at hlength
  · intro hnot
    have heq : addNamespaces topNs subNs = join '/' topNs subNs := by
      rw [addNamespaces_eq, if_neg hnot]
    obtain ⟨rest, hrest⟩ : ∃ rest, join '/' topNs subNs = '/' :: rest :=
      exists_join topNs subNs
    exact {
      absolute := by rw [heq, hrest, List.head?_cons]
      joined := by
        intro hsub
        rw [heq, join_of_not_blank hsub]
      no_empty_name := by
        intro hsub htop
        obtain ⟨c, names, hc, hnames⟩ := exists_trimLeft hsub
        refine ⟨stem '/' topNs ++ ['/'], c, names, ?_, hnames, ?_⟩
        · rw [heq, join_of_not_blank hsub, hnames]
          simp
        · rw [doubled_concat]
          simp [hc, not_doubled_stem htop] }

/-! ## Joining three namespaces -/

variable (a b c : List Char)

theorem addNamespaces_left : addNamespaces (addNamespaces a b) c =
    if DoublesRoot a b ∨ (Blank '/' a ∧ Blank '/' b ∧ ¬ Blank '/' c) then
      '/' :: join '/' (join '/' a b) c
    else join '/' (join '/' a b) c := by
  obtain ⟨rest, hrest⟩ : ∃ rest, join '/' a b = '/' :: rest := exists_join a b
  rw [addNamespaces_eq a b]
  by_cases hroot : DoublesRoot a b
  · -- the slash too many is at the start of a namespace with names
    have hnot : ¬ Blank '/' (join '/' a b) := by simp [hroot.2.2]
    have hinner : ¬ DoublesRoot ('/' :: join '/' a b) c := by simp [DoublesRoot, hnot]
    rw [if_pos hroot, addNamespaces_eq, if_neg hinner,
      join_cons_left hnot (by rw [hrest, List.head?_cons]), if_pos (.inl hroot)]
  · have hne : join '/' a b ≠ [] := by simp [hrest]
    rw [if_neg hroot, addNamespaces_eq]
    simp only [DoublesRoot, ne_eq, hne, not_false_eq_true, true_and, blank_join, and_assoc]
      at hroot ⊢
    simp [hroot]

theorem addNamespaces_right : addNamespaces a (addNamespaces b c) =
    if a ≠ [] ∧ Blank '/' a ∧ ¬ (Blank '/' b ∧ Blank '/' c) then
      '/' :: join '/' a (join '/' b c)
    else join '/' a (join '/' b c) := by
  rw [addNamespaces_eq b c]
  split
  · rw [addNamespaces_eq, join_cons_right]
    simp [DoublesRoot]
  · rw [addNamespaces_eq]
    simp [DoublesRoot]

theorem ite_cons_eq_iff {P Q : Prop} [Decidable P] [Decidable Q] (x : Char) (l : List Char) :
    (if P then x :: l else l) = (if Q then x :: l else l) ↔ (P ↔ Q) := by
  by_cases hP : P
  · by_cases hQ : Q
    · simp [hP, hQ]
    · simp [hP, hQ]
  · by_cases hQ : Q
    · simp [hP, hQ]
    · simp [hP, hQ]

/-- Both ways give the same names joined in the same way, so only a slash too
many can tell them apart. -/
theorem addNamespaces_assoc_iff :
    addNamespaces (addNamespaces a b) c = addNamespaces a (addNamespaces b c) ↔
      ¬ (a = [] ∧ Blank '/' b ∧ ¬ Blank '/' c) := by
  rw [addNamespaces_left, addNamespaces_right, join_assoc, ite_cons_eq_iff, DoublesRoot]
  by_cases ha : a = []
  · -- the empty namespace and a root below it give a root
    subst ha
    simp
  · by_cases hb : Blank '/' b
    · simp [ha, hb]
    · simp [ha, hb]

/-- **Joining namespaces.** Two namespaces are joined with one slash exactly
if the one above is not a root written with slashes or has no name below it,
and three can be joined in any order exactly if the first one is not empty,
the second one has a name, or the third one has none. -/
theorem addNamespaces_joins (topNs subNs a b c : List Char) :
    (JoinsWithOneSlash topNs subNs ↔ ¬ DoublesRoot topNs subNs) ∧
    (addNamespaces (addNamespaces a b) c = addNamespaces a (addNamespaces b c) ↔
      ¬ (a = [] ∧ Blank '/' b ∧ ¬ Blank '/' c)) :=
  ⟨joinsWithOneSlash_iff topNs subNs, addNamespaces_assoc_iff a b c⟩

/-- `add_namespaces("/", "a")` is `//a`. So is `a` below what `""` and `""` are
joined to, while `""` and `a` below `""` are joined to `/a`. -/
theorem root_doubles_slash :
    (¬ ∀ topNs subNs : List Char, JoinsWithOneSlash topNs subNs) ∧
    ¬ ∀ a b c : List Char,
      addNamespaces (addNamespaces a b) c = addNamespaces a (addNamespaces b c) := by
  have hroot : addNamespaces ['/'] ['a'] = ['/', '/', 'a'] := by
    simp [addNamespaces, popSlashes, eraseSlashes]
  have hempty : addNamespaces [] [] = ['/'] := by simp [addNamespaces, popSlashes, eraseSlashes]
  have hone : addNamespaces [] ['a'] = ['/', 'a'] := by
    simp [addNamespaces, popSlashes, eraseSlashes]
  have hkept : addNamespaces [] ['/', 'a'] = ['/', 'a'] := by
    simp [addNamespaces, popSlashes, eraseSlashes]
  constructor
  · intro h
    have hjoined := (h ['/'] ['a']).joined (by decide)
    have hstem : stem '/' ['/'] = [] := by decide
    have hname : trimLeft '/' ['a'] = ['a'] := by decide
    rw [hroot, hstem, hname] at hjoined
    cases hjoined
  · intro h
    have hassoc := h [] [] ['a']
    rw [hempty, hroot, hone, hkept] at hassoc
    cases hassoc

end Nav3D.Util
