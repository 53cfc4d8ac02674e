import Mathlib
import MeshCall.Config.Layers
/-!
# How the layers choose a key's value

A key without a dot is looked up in the four layers one after another: its flag, its
environment variable when it is set and not empty, the file, the default (`resolve_plain`).
The settings hold the value of every known key that found one, and nothing else at the key's
place as long as no other known key starts with the key up to case (`field_settings`). The
known keys are the flags', the defaults' and the file's leaves; the file names a key at the top
level when it has an entry for it that holds no table (`mem_leaves_iff`).

Together (`field_settings_apart`): where every layer keeps a key apart, the settings hold at the
key the value of its first layer when a flag, the file or a default names it, and nothing when
only its environment variable does.
-/

namespace MeshCall.Layers

/-! ## Parts of a key -/

theorem parts_of_no_dot {key : String} (h : '.' ∉ key.toList) : parts key = [key] := by
  have hp : ∀ c ∈ key.toList, (c == '.') = false := by
    intro c hc
    have : c ≠ '.' := fun hc' => h (hc' ▸ hc)
    simpa using this
  simp [parts, List.splitOn_eq_splitOnP, List.splitOnP_eq_singleton hp]

/-- The part of a key before its first dot. -/
def root (key : String) : String := (parts key).headD ""

theorem root_of_no_dot {key : String} (h : '.' ∉ key.toList) : root key = key := by
  simp [root, parts_of_no_dot h]

/-- A key below `a` has the root of `a`. -/
theorem root_append_dot (a b : String) : root (a ++ "." ++ b) = root a := by
  have hdot : ("." : String).toList = ['.'] := by decide
  have hsplit : (a ++ "." ++ b).toList.splitOn '.' =
      a.toList.splitOn '.' ++ b.toList.splitOn '.' := by
    simp only [String.toList_append, hdot, List.append_assoc, List.singleton_append,
      List.splitOn_eq_splitOnP]
    exact List.splitOnP_append_cons _ _ (by simp)
  obtain ⟨first, more, hfirst⟩ := List.exists_cons_of_ne_nil (List.splitOn_ne_nil '.' a.toList)
  simp only [root, parts, hsplit, hfirst, List.cons_append, List.map_cons, List.headD_cons]

theorem head?_parts (key : String) : (parts key).head? = some (root key) := by
  obtain ⟨first, more, hfirst⟩ :=
    List.exists_cons_of_ne_nil (List.splitOn_ne_nil '.' key.toList)
  simp [root, parts, hfirst]

/-! ## Looking up and putting values -/

theorem lookup_eq_none_iff {es : List (String × Setting)} {k : String} :
    Setting.lookup es k = none ↔ ∀ e ∈ es, e.1 ≠ k := by
  simp [Setting.lookup, List.find?_eq_none]

theorem isSome_lookup_iff {es : List (String × Setting)} {k : String} :
    (Setting.lookup es k).isSome ↔ ∃ e ∈ es, e.1 = k := by
  rw [← Option.ne_none_iff_isSome, Ne, lookup_eq_none_iff]
  simp

/-- A key whose entries all hold `v` looks up to `v`, once it has one. -/
theorem lookup_eq_some {es : List (String × Setting)} {k : String} {v : Setting}
    (hk : ∃ e ∈ es, e.1 = k) (hv : ∀ e ∈ es, e.1 = k → e.2 = v) :
    Setting.lookup es k = some v := by
  obtain ⟨x, hx⟩ := Option.isSome_iff_exists.mp (isSome_lookup_iff.mpr hk)
  obtain ⟨e, he, rfl⟩ := Option.map_eq_some_iff.mp hx
  have hek : e.1 = k := by simpa using List.find?_some he
  rw [hx, hv e (List.mem_reverse.mp (List.mem_of_find?_eq_some he)) hek]

/-- Changing values in place keeps the keys, so a lookup finds the changed entry. -/
theorem lookup_map {t : List (String × Setting)} {f : String × Setting → String × Setting}
    (hf : ∀ e, (f e).1 = e.1) (k : String) :
    Setting.lookup (t.map f) k = (t.reverse.find? (·.1 == k)).map fun e => (f e).2 := by
  have hp : ((fun e : String × Setting => e.1 == k) ∘ f) = fun e => e.1 == k :=
    funext fun e => by simp [hf]
  simp only [Setting.lookup, ← List.map_reverse, List.find?_map, hp, Option.map_map]
  rfl

theorem lookup_put_self (t : List (String × Setting)) (k : String) (v : Setting) :
    Setting.lookup (put t k v) k = some v := by
  unfold put
  split
  · rename_i hany
    rw [lookup_map (fun e => by obtain ⟨a, b⟩ := e; dsimp only; split <;> rfl)]
    obtain ⟨e, he, hek⟩ := List.any_eq_true.mp hany
    obtain ⟨e', he'⟩ : ∃ e', t.reverse.find? (·.1 == k) = some e' := by
      cases h : t.reverse.find? (·.1 == k) with
      | none => exact absurd hek (by simpa using List.find?_eq_none.mp h e (by simpa using he))
      | some e' => exact ⟨e', rfl⟩
    have hk : e'.1 = k := by simpa using List.find?_some he'
    obtain ⟨a, b⟩ := e'
    simp_all
  · simp [Setting.lookup]

theorem lookup_put_ne {t : List (String × Setting)} {k k' : String} (v : Setting) (h : k' ≠ k) :
    Setting.lookup (put t k v) k' = Setting.lookup t k' := by
  unfold put
  split
  · rw [lookup_map (fun e => by obtain ⟨a, b⟩ := e; dsimp only; split <;> rfl)]
    cases hf : t.reverse.find? (·.1 == k') with
    | none => simp [Setting.lookup, hf]
    | some e =>
      have hk : e.1 = k' := by simpa using List.find?_some hf
      obtain ⟨a, b⟩ := e
      simp only at hk
      subst hk
      simp [Setting.lookup, hf, h]
  · simp [Setting.lookup, Ne.symm h]

theorem mem_put {t : List (String × Setting)} {k : String} {v : Setting} {e : String × Setting}
    (he : e ∈ put t k v) : e.1 ∈ t.map (·.1) ∨ e.1 = k := by
  unfold put at he
  split at he
  · obtain ⟨⟨a, b⟩, hab, rfl⟩ := List.mem_map.mp he
    exact .inl (List.mem_map.mpr ⟨(a, b), hab, by dsimp only; split <;> rfl⟩)
  · rcases List.mem_append.mp he with he | he
    · exact .inl (List.mem_map_of_mem he)
    · simp at he
      exact .inr (by rw [he])

/-! ## Putting a value at a path -/

theorem lookup_insert_single (t : List (String × Setting)) (k : String) (v : Setting) :
    Setting.lookup (insert t [k] v) k = some v := by
  simp [insert, lookup_put_self]

/-- A value put at a path whose first part is not `k` leaves `k` as it was. -/
theorem lookup_insert_ne {t : List (String × Setting)} {path : List String} {k : String}
    (v : Setting) (h : path.head? ≠ some k) :
    Setting.lookup (insert t path v) k = Setting.lookup t k := by
  match path, h with
  | [], _ => simp [insert]
  | [k'], h => simpa [insert] using lookup_put_ne v (Ne.symm (by simpa using h))
  | k' :: k'' :: more, h =>
    simp only [insert]
    exact lookup_put_ne _ (Ne.symm (by simpa using h))

theorem mem_insert {t : List (String × Setting)} {path : List String} {v : Setting}
    {e : String × Setting} (he : e ∈ insert t path v) :
    e.1 ∈ t.map (·.1) ∨ path.head? = some e.1 := by
  match path, he with
  | [], he => exact .inl (List.mem_map_of_mem he)
  | [k'], he => simpa [insert, eq_comm] using mem_put he
  | k' :: k'' :: more, he =>
    simp only [insert] at he
    simpa [eq_comm] using mem_put he

/-! ## The leaves of the file -/

/-- `x` is a leaf that a value under the key `full` can give: `full` itself, or, in a table, a key
below `full`, and any key at all when `full` is empty, since the members of a table under the
empty key count as top-level keys. -/
def Below (full : String) (v : Setting) (x : String) : Prop :=
  x = full ∨ ((∃ inner, v = .table inner) ∧ (full = "" ∨ ∃ rest, x = full ++ "." ++ rest))

theorem mem_addKey {keys : List String} {k x : String} :
    x ∈ addKey keys k ↔ x ∈ keys ∨ x = k := by
  unfold addKey
  split
  · rename_i hk
    constructor
    · exact .inl
    · rintro (h | rfl)
      · exact h
      · simpa using hk
  · simp

/-- Folding steps that each add to the keys what `P` says of their element. -/
theorem mem_foldl_of_step {α : Type} {f : List String → α → List String}
    {P : α → String → Prop} (hf : ∀ keys a x, x ∈ f keys a ↔ x ∈ keys ∨ P a x)
    {x : String} :
    ∀ (as : List α) (keys : List String),
      x ∈ as.foldl f keys ↔ x ∈ keys ∨ ∃ a ∈ as, P a x
  | [], keys => by simp
  | a :: rest, keys => by
    rw [List.foldl_cons, mem_foldl_of_step hf rest, hf]
    simp only [List.mem_cons, exists_eq_or_imp]
    exact or_assoc

/-- Adding the keys of a list one by one. -/
theorem mem_foldl_addKey {α : Type} {f : List String → α → List String} {name : α → String}
    (hf : ∀ keys a, f keys a = addKey keys (name a)) {x : String} (as : List α)
    (keys : List String) : x ∈ as.foldl f keys ↔ x ∈ keys ∨ ∃ a ∈ as, name a = x :=
  mem_foldl_of_step (fun keys a x => by rw [hf, mem_addKey, eq_comm]) as keys

theorem leavesOf_plain {v : Setting} (hv : ∀ inner, v ≠ .table inner) (keys : List String)
    (full : String) : leavesOf keys full v = addKey keys full := by
  cases v with
  | table inner => exact absurd rfl (hv inner)
  | _ => rfl

/-- Every leaf found in a table was known before or lies below one of its entries; every leaf
found under a value was known before or lies below the value's key. -/
theorem mem_leaves_and_leavesOf {x : String} :
    (∀ keys pfx es, x ∈ leaves keys pfx es →
      x ∈ keys ∨ ∃ e ∈ es, Below (if pfx == "" then e.1 else pfx ++ "." ++ e.1) e.2 x) ∧
    (∀ keys full v, x ∈ leavesOf keys full v → x ∈ keys ∨ Below full v x) := by
  refine leaves.mutual_induct
    (fun keys pfx es => x ∈ leaves keys pfx es →
      x ∈ keys ∨ ∃ e ∈ es, Below (if pfx == "" then e.1 else pfx ++ "." ++ e.1) e.2 x)
    (fun keys full v => x ∈ leavesOf keys full v → x ∈ keys ∨ Below full v x)
    ?known ?table ?plain ?nil ?cons
  case known =>
    intro keys full inner hknown h
    simp only [leavesOf, hknown, if_true] at h
    exact .inl h
  case table =>
    intro keys full inner hknown ih h
    simp only [leavesOf, hknown] at h
    rcases ih h with h | ⟨e, -, hbelow⟩
    · exact .inl h
    refine .inr (.inr ⟨⟨inner, rfl⟩, ?_⟩)
    by_cases hfull : full = ""
    · exact .inl hfull
    -- below a named table, every leaf is `full.…`
    right
    simp only [hfull, beq_iff_eq, if_false] at hbelow
    rcases hbelow with rfl | ⟨-, hempty | ⟨rest, rfl⟩⟩
    · exact ⟨e.1, rfl⟩
    · exact absurd (congrArg String.length hempty) (by simp)
    · exact ⟨e.1 ++ "." ++ rest, by simp only [String.append_assoc]⟩
  case plain =>
    intro v keys full hv h
    rw [leavesOf_plain hv, mem_addKey] at h
    exact h.imp_right .inl
  case nil =>
    intro keys pfx h
    exact .inl h
  case cons =>
    intro keys pfx k v rest ihv ihrest h
    rcases ihrest h with h | ⟨e, he, hbelow⟩
    · rcases ihv h with h | h
      · exact .inl h
      · exact .inr ⟨(k, v), List.mem_cons_self, h⟩
    · exact .inr ⟨e, List.mem_cons_of_mem _ he, hbelow⟩

/-- Walking a table only adds leaves. -/
theorem subset_leaves_and_leavesOf {y : String} :
    (∀ keys pfx es, y ∈ keys → y ∈ leaves keys pfx es) ∧
    (∀ keys full v, y ∈ keys → y ∈ leavesOf keys full v) := by
  refine leaves.mutual_induct (fun keys pfx es => y ∈ keys → y ∈ leaves keys pfx es)
    (fun keys full v => y ∈ keys → y ∈ leavesOf keys full v) ?known ?table ?plain ?nil ?cons
  case known =>
    intro keys full inner hknown h
    simp only [leavesOf, hknown, if_true]
    exact h
  case table =>
    intro keys full inner hknown ih h
    simp only [leavesOf, hknown]
    exact ih h
  case plain =>
    intro v keys full hv h
    rw [leavesOf_plain hv, mem_addKey]
    exact .inl h
  case nil => exact fun _ _ h => h
  case cons => exact fun _ _ _ _ _ ihv ihrest h => ihrest (ihv h)

/-- A top-level entry that holds no table is a leaf of the file. -/
theorem mem_leaves_of_plain {e : String × Setting} (hv : ∀ inner, e.2 ≠ .table inner) :
    ∀ {es : List (String × Setting)} {keys : List String}, e ∈ es → e.1 ∈ leaves keys "" es
  | (k, v) :: rest, keys, he => by
    simp only [leaves, beq_self_eq_true, if_true]
    rcases List.mem_cons.mp he with rfl | he
    · apply subset_leaves_and_leavesOf.1
      rw [leavesOf_plain hv, mem_addKey]
      exact .inr rfl
    · exact mem_leaves_of_plain hv he

/-- A key without a dot is a leaf of a file, where neither it nor the empty key holds a table,
exactly when it was known before or the file has an entry for it. -/
theorem mem_leaves_iff {es : List (String × Setting)} {keys : List String} {k : String}
    (hk : '.' ∉ k.toList)
    (hplain : ∀ e ∈ es, e.1 = k ∨ e.1 = "" → ∀ inner, e.2 ≠ .table inner) :
    k ∈ leaves keys "" es ↔ k ∈ keys ∨ ∃ e ∈ es, e.1 = k := by
  constructor
  · intro h
    rcases mem_leaves_and_leavesOf.1 keys "" es h with h | ⟨e, he, hbelow⟩
    · exact .inl h
    simp only [beq_self_eq_true, if_true] at hbelow
    rcases hbelow with rfl | ⟨⟨inner, htable⟩, hempty | ⟨rest, rfl⟩⟩
    · exact .inr ⟨e, he, rfl⟩
    · exact absurd htable (hplain e he (.inr hempty) inner)
    · -- a key below another has a dot
      exact absurd (by simp) hk
  · rintro (h | ⟨e, he, rfl⟩)
    · exact subset_leaves_and_leavesOf.1 keys "" es h
    · exact mem_leaves_of_plain (hplain e he (.inl rfl)) he

/-- A file that keeps the key `k` apart: no other entry has a root equal to `k` up to case, and
neither `k` nor the empty key holds a table. -/
structure Apart (file : List (String × Setting)) (k : String) : Prop where
  roots : ∀ e ∈ file, e.1 ≠ k → Case.fold (root e.1) ≠ Case.fold k
  plain : ∀ e ∈ file, e.1 = k ∨ e.1 = "" → ∀ inner, e.2 ≠ .table inner

/-- Every leaf of a file that keeps `k` apart, other than `k`, has a root other than `k` up to
case. -/
theorem fold_root_leaves {es : List (String × Setting)} {keys : List String} {k : String}
    (hes : Apart es k)
    (hkeys : ∀ key ∈ keys, key ≠ k → Case.fold (root key) ≠ Case.fold k) :
    ∀ key ∈ leaves keys "" es, key ≠ k → Case.fold (root key) ≠ Case.fold k := by
  intro key hkey hne
  rcases mem_leaves_and_leavesOf.1 keys "" es hkey with h | ⟨e, he, hbelow⟩
  · exact hkeys key h hne
  simp only [beq_self_eq_true, if_true] at hbelow
  rcases hbelow with rfl | ⟨⟨inner, htable⟩, hempty | ⟨rest, rfl⟩⟩
  · exact hes.roots e he hne
  · exact absurd htable (hes.plain e he (.inr hempty) inner)
  · -- a key below an entry shares its root, and the entry is not `k`, which holds no table
    have hek : e.1 ≠ k := fun hek => hes.plain e he (.inl hek) inner htable
    rw [root_append_dot]
    exact hes.roots e he hek

/-! ## The settings -/

/-- Steps that each set the key `k` only when their own key is `k`, and then to `g k` if
anything: after all of them `k` holds `g k` when one of them had the key, else what it held. -/
theorem lookup_foldl {f : List (String × Setting) → String → List (String × Setting)}
    {k : String}
    {g : String → Option Setting} :
    ∀ (ks : List String) (t : List (String × Setting)),
    (∀ t, ∀ key ∈ ks, Setting.lookup (f t key) k =
      (if key = k then g key else none).or (Setting.lookup t k)) →
    Setting.lookup (ks.foldl f t) k = (if k ∈ ks then g k else none).or (Setting.lookup t k)
  | [], t, _ => by simp
  | key :: rest, t, hf => by
    rw [List.foldl_cons, lookup_foldl rest (f t key) fun t key' hkey' =>
      hf t key' (List.mem_cons_of_mem key hkey'), hf t key List.mem_cons_self]
    by_cases hkey : key = k
    · subst hkey
      by_cases hrest : key ∈ rest <;> cases g key <;> simp [hrest]
    · by_cases hrest : k ∈ rest <;> simp [hkey, Ne.symm hkey, hrest]

/-- Steps that each add entries only at the root of their key. -/
theorem mem_foldl {f : List (String × Setting) → String → List (String × Setting)} :
    ∀ (ks : List String) (t : List (String × Setting)),
    (∀ t key, ∀ e ∈ f t key, e.1 ∈ t.map (·.1) ∨ root key = e.1) →
    ∀ e ∈ ks.foldl f t, e.1 ∈ t.map (·.1) ∨ ∃ key ∈ ks, root key = e.1
  | [], t, _ => fun e he => .inl (List.mem_map_of_mem he)
  | key :: rest, t, hf => by
    intro e he
    rcases mem_foldl rest (f t key) hf e he with he | ⟨key', hkey', hroot⟩
    · obtain ⟨e', he', hfst⟩ := List.mem_map.mp he
      rcases hf t key e' he' with h | h
      · exact .inl (hfst ▸ h)
      · exact .inr ⟨key, List.mem_cons_self, h.trans hfst⟩
    · exact .inr ⟨key', List.mem_cons_of_mem key hkey', hroot⟩

/-- A value that is there and is not null. -/
def present : Option Setting → Option Setting
  | some .null => none
  | o => o

variable (L : Layers) {k : String}

/-- A key without a dot takes its flag's value, else its environment variable's when set and not
empty, else the file's value that is not null, else the default that is not null. -/
theorem resolve_plain (hk : parts k = [k]) :
    L.resolve k = (Setting.lookup L.flags k).or (((L.envValue k).map .text).or
      ((present (Setting.lookup L.file k)).or (present (Setting.lookup L.defaults k)))) := by
  -- one part: no parent can be shadowed, and the file is searched for `k` alone
  have hsearch : search 2 (.table L.file) [k] = present (Setting.lookup L.file k) := by
    cases h : Setting.lookup L.file k with
    | none => simp [search, joinPath, h, present]
    | some x => cases x <;> simp [search, joinPath, h, present]
  unfold resolve
  simp only [hk, List.length_singleton, Nat.sub_self, List.range_zero, List.map_nil, List.any_nil,
    Bool.false_eq_true, if_false, Nat.reduceAdd, hsearch, shadowed, beq_self_eq_true, if_true]
  cases Setting.lookup L.flags k <;> cases L.envValue k <;>
    cases present (Setting.lookup L.file k) <;>
    simp only [Option.some_or, Option.none_or, Option.map_some, Option.map_none]
  -- what is left is the default, which both sides read alike
  cases Setting.lookup L.defaults k with
  | none => rfl
  | some x => cases x <;> rfl

/-- A key without a dot holds in the settings the value it resolves to, when it is known, as long
as no other known key has it as its root. -/
theorem lookup_settings (hk : parts k = [k])
    (hroots : ∀ key ∈ L.knownKeys, key ≠ k → root key ≠ k) :
    Setting.lookup L.settings k = if k ∈ L.knownKeys then L.resolve k else none := by
  unfold settings
  rw [lookup_foldl (g := L.resolve) _ _ ?step]
  · simp [Setting.lookup]
  intro t key hkey
  by_cases hkk : key = k
  · subst hkk
    cases L.resolve key <;> simp [hk, lookup_insert_single]
  · -- another key puts its value under its own root
    have hhead : (parts key).head? ≠ some k := by
      rw [head?_parts]
      simpa using hroots key hkey hkk
    cases L.resolve key <;> simp [hkk, lookup_insert_ne _ hhead]

/-- Every entry of the settings sits at the root of a known key. -/
theorem mem_settings {e : String × Setting} (he : e ∈ L.settings) :
    ∃ key ∈ L.knownKeys, root key = e.1 := by
  unfold settings at he
  refine (mem_foldl _ _ ?_ e he).resolve_left (by simp)
  -- a step puts the value it resolved at the root of its key
  intro t key e he
  split at he
  · rcases mem_insert he with h | h
    · exact .inl h
    · rw [head?_parts] at h
      exact .inr (Option.some.inj h)
  · exact .inl (List.mem_map_of_mem he)

/-- The value a field named `k` takes from the settings: what `k` resolves to when it is known, as
long as no other known key has a root equal to `k` up to case. -/
theorem field_settings (hk : parts k = [k])
    (hfold : ∀ key ∈ L.knownKeys, key ≠ k → Case.fold (root key) ≠ Case.fold k) :
    Setting.field L.settings k = if k ∈ L.knownKeys then L.resolve k else none := by
  have hroots : ∀ key ∈ L.knownKeys, key ≠ k → root key ≠ k :=
    fun key hkey hne hroot => hfold key hkey hne (by rw [hroot])
  rw [← lookup_settings L hk hroots]
  unfold Setting.field
  split
  · rename_i v hv
    exact hv.symm
  · rename_i hnone
    -- no entry is `k` up to case: an entry sits at the root of a known key, which is `k`
    -- itself only for `k`, whose entry the lookup would have found
    rw [hnone, Option.map_eq_none_iff, List.find?_eq_none]
    intro e he hfe
    obtain ⟨key, hkey, hroot⟩ := mem_settings L he
    by_cases hkk : key = k
    · subst hkk
      have : e.1 = key := by rw [← hroot, root, hk]; rfl
      have := isSome_lookup_iff.mpr ⟨e, he, rfl⟩
      simp_all
    · exact hfold key hkey hkk (by rw [hroot]; simpa using hfe)

/-- Where the file keeps `k` apart, `k` is known exactly when a flag, the file or a default has
it. -/
theorem mem_knownKeys (hk : '.' ∉ k.toList) (hfile : Apart L.file k) :
    k ∈ L.knownKeys ↔
      (∃ e ∈ L.flags, e.1 = k) ∨ (∃ e ∈ L.file, e.1 = k) ∨
        ∃ e ∈ L.defaults, e.1 = k := by
  unfold knownKeys
  rw [@mem_foldl_addKey _ _ Prod.fst (fun _ _ => rfl), mem_leaves_iff hk hfile.plain,
    @mem_foldl_addKey _ _ Prod.fst (fun _ _ => rfl)]
  simp only [List.not_mem_nil, false_or]
  exact or_assoc

/-- No known key but `k` has a root equal to `k` up to case, when the flags, the file and the
defaults each keep `k` apart. -/
theorem fold_root_knownKeys (hfile : Apart L.file k)
    (hflags : ∀ e ∈ L.flags, e.1 ≠ k → Case.fold (root e.1) ≠ Case.fold k)
    (hdefaults : ∀ e ∈ L.defaults, e.1 ≠ k → Case.fold (root e.1) ≠ Case.fold k) :
    ∀ key ∈ L.knownKeys, key ≠ k → Case.fold (root key) ≠ Case.fold k := by
  intro key hkey hne
  unfold knownKeys at hkey
  rw [@mem_foldl_addKey _ _ Prod.fst (fun _ _ => rfl)] at hkey
  rcases hkey with hkey | ⟨e, he, rfl⟩
  · refine fold_root_leaves hfile ?_ key hkey hne
    intro key hkey hne
    rw [@mem_foldl_addKey _ _ Prod.fst (fun _ _ => rfl)] at hkey
    obtain ⟨e, he, rfl⟩ := hkey.resolve_left (by simp)
    exact hflags e he hne
  · exact hdefaults e he hne

/-- A key without a dot, kept apart by every layer, holds in the settings the value of its first
layer that has one, when a flag, the file or a default names it, and nothing otherwise: its
environment variable alone does not make it known. -/
theorem field_settings_apart (hk : '.' ∉ k.toList) (hfile : Apart L.file k)
    (hflags : ∀ e ∈ L.flags, e.1 ≠ k → Case.fold (root e.1) ≠ Case.fold k)
    (hdefaults : ∀ e ∈ L.defaults, e.1 ≠ k → Case.fold (root e.1) ≠ Case.fold k) :
    Setting.field L.settings k =
      if (∃ e ∈ L.flags, e.1 = k) ∨ (∃ e ∈ L.file, e.1 = k) ∨
          ∃ e ∈ L.defaults, e.1 = k then
        (Setting.lookup L.flags k).or (((L.envValue k).map .text).or
          ((present (Setting.lookup L.file k)).or (present (Setting.lookup L.defaults k))))
      else none := by
  rw [field_settings L (parts_of_no_dot hk) (fold_root_knownKeys L hfile hflags hdefaults),
    resolve_plain L (parts_of_no_dot hk)]
  by_cases hnamed :
    (∃ e ∈ L.flags, e.1 = k) ∨ (∃ e ∈ L.file, e.1 = k) ∨ ∃ e ∈ L.defaults, e.1 = k
  · rw [if_pos ((mem_knownKeys L hk hfile).mpr hnamed), if_pos hnamed]
  · rw [if_neg (mt (mem_knownKeys L hk hfile).mp hnamed), if_neg hnamed]

end MeshCall.Layers
