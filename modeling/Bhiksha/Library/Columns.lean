import Bhiksha.Library.Causal

/-! Columns of a table that are computed by shifts, by rolling windows, and group by group. -/

namespace Library

variable {α β γ κ : Type}

/-- A column moved down by some rows; nothing stands in the first ones. -/
def shiftColumn (n : ℕ) (xs : List (Option β)) : List (Option β) :=
  (List.replicate n none ++ xs).take xs.length

@[simp] theorem length_shiftColumn (n : ℕ) (xs : List (Option β)) :
    (shiftColumn n xs).length = xs.length := by
  simp [shiftColumn]

theorem causal_shiftColumn (n : ℕ) : Causal (shiftColumn n : List (Option β) → List (Option β)) := by
  intro m xs
  unfold shiftColumn
  rw [List.length_take, List.take_take, List.take_append, List.take_append, List.take_take]
  congr 2
  omega

/-- An aggregate of what is not null in the last `window` rows, where that is enough. -/
def rolling (window minSamples : ℕ) (aggregate : List β → Option γ) (xs : List (Option β)) :
    List (Option γ) :=
  prefixMap (fun p =>
    let values := (p.rtake window).reduceOption
    if minSamples ≤ values.length then aggregate values else none) xs

@[simp] theorem length_rolling (window minSamples : ℕ) (aggregate : List β → Option γ)
    (xs : List (Option β)) : (rolling window minSamples aggregate xs).length = xs.length :=
  length_prefixMap _ xs

theorem causal_rolling (window minSamples : ℕ) (aggregate : List β → Option γ) :
    Causal (rolling window minSamples aggregate) := causal_prefixMap _

theorem Causal.isPrefix {f : List α → List β} (hf : Causal f) {xs ys : List α} (h : xs <+: ys) :
    f xs <+: f ys := by
  rw [List.prefix_iff_eq_take.mp h, hf]
  exact List.take_prefix _ _

/-- A column one row down holds, in each row, the last entry that the column has before it. -/
theorem getElem?_shiftColumn_one {f : List α → List (Option β)} (hf : Causal f)
    (hlength : ∀ xs, (f xs).length = xs.length) {xs : List α} {i : ℕ} (hi : i < xs.length) :
    (shiftColumn 1 (f xs))[i]? = some ((f (xs.take i)).getLast?.join) := by
  rw [hf i xs]
  unfold shiftColumn
  rw [List.getElem?_take_of_lt (by rw [hlength]; exact hi)]
  cases i with
  | zero => rfl
  | succ i =>
    have hlt : i < (f xs).length := by
      rw [hlength]
      omega
    have hlast : ((f xs).take (i + 1)).getLast? = some (f xs)[i] := by
      rw [List.getLast?_eq_getElem?, List.length_take, min_eq_left (by omega),
        List.getElem?_take_of_lt (by omega)]
      exact List.getElem?_eq_getElem hlt
    rw [hlast]
    exact List.getElem?_eq_getElem hlt

section Groups

variable [DecidableEq κ] {key : α → κ} {key' : γ → κ} {k : κ}

/-- The rows of one group. -/
def ofGroup (key : α → κ) (k : κ) (xs : List α) : List α := xs.filter fun x => key x = k

theorem ofGroup_cons_of_eq {x : α} {xs : List α} (h : key x = k) :
    ofGroup key k (x :: xs) = x :: ofGroup key k xs :=
  List.filter_cons_of_pos (decide_eq_true h)

theorem ofGroup_cons_of_ne {x : α} {xs : List α} (h : key x ≠ k) :
    ofGroup key k (x :: xs) = ofGroup key k xs := by
  exact List.filter_cons_of_neg (by simp [h])

theorem ofGroup_append (xs ys : List α) :
    ofGroup key k (xs ++ ys) = ofGroup key k xs ++ ofGroup key k ys := List.filter_append ..

/-- A column of the group of each row, read at the row's place in the group: `before` are the rows that
have been passed. -/
def overFrom (key : α → κ) (f : List α → List β) (table before : List α) :
    List α → List (Option β)
  | [] => []
  | x :: rest =>
    (f (ofGroup key (key x) table))[(ofGroup key (key x) before).length]? ::
      overFrom key f table (before ++ [x]) rest

/-- A column computed on each group alone. -/
def groupColumn (key : α → κ) (f : List α → List β) (xs : List α) : List (Option β) :=
  overFrom key f xs [] xs

/-- The rows with a column of their group beside them. -/
def withOver (key : α → κ) (f : List α → List β) (attach : α → Option β → γ) (xs : List α) : List γ :=
  List.zipWith attach xs (groupColumn key f xs)

theorem length_overFrom (f : List α → List β) (table before rest : List α) :
    (overFrom key f table before rest).length = rest.length := by
  induction rest generalizing before with
  | nil => rfl
  | cons x rest ih => rw [overFrom, List.length_cons, List.length_cons, ih]

/-- What the rows keep beside the column. -/
theorem map_withOver {δ : Type} {f : List α → List β} {attach : α → Option β → γ} (g : γ → δ)
    (g' : α → δ) (hkeeps : ∀ x b, g (attach x b) = g' x) (xs : List α) :
    (withOver key f attach xs).map g = xs.map g' := by
  have hlengths : (groupColumn key f xs).length = xs.length := length_overFrom f xs [] xs
  unfold withOver
  generalize groupColumn key f xs = column at hlengths
  induction xs generalizing column with
  | nil => rfl
  | cons x xs ih =>
    cases column with
    | nil => cases hlengths
    | cons b column =>
      rw [List.zipWith_cons_cons, List.map_cons, List.map_cons, hkeeps,
        ih column (Nat.succ.inj hlengths)]

/-- On a group, a column computed over the groups is the column of the group. -/
theorem ofGroup_overFrom {f : List α → List β} {attach : α → Option β → γ}
    (hkey : ∀ x b, key' (attach x b) = key x) (table before rest : List α)
    (hlength : (f (ofGroup key k table)).length =
      (ofGroup key k before).length + (ofGroup key k rest).length) :
    ofGroup key' k (List.zipWith attach rest (overFrom key f table before rest)) =
      List.zipWith attach (ofGroup key k rest)
        (((f (ofGroup key k table)).drop (ofGroup key k before).length).map some) := by
  induction rest generalizing before with
  | nil => rfl
  | cons x rest ih =>
    rw [overFrom, List.zipWith_cons_cons]
    by_cases hx : key x = k
    · subst hx
      rw [ofGroup_cons_of_eq rfl, List.length_cons] at hlength
      have hlt : (ofGroup key (key x) before).length < (f (ofGroup key (key x) table)).length := by
        omega
      have hbefore : (ofGroup key (key x) (before ++ [x])).length =
          (ofGroup key (key x) before).length + 1 := by
        rw [ofGroup_append, ofGroup_cons_of_eq rfl, List.length_append]
        rfl
      have hrest := ih (before ++ [x]) (by rw [hbefore]; omega)
      rw [hbefore] at hrest
      rw [ofGroup_cons_of_eq (hkey x _), ofGroup_cons_of_eq rfl, hrest,
        List.drop_eq_getElem_cons hlt, List.map_cons, List.zipWith_cons_cons,
        List.getElem?_eq_getElem hlt]
    · have hbefore : ofGroup key k (before ++ [x]) = ofGroup key k before := by
        rw [ofGroup_append, ofGroup_cons_of_ne hx]
        exact List.append_nil _
      rw [ofGroup_cons_of_ne hx] at hlength
      have hrest := ih (before ++ [x]) (by rw [hbefore]; exact hlength)
      rw [hbefore] at hrest
      rw [ofGroup_cons_of_ne (by rw [hkey]; exact hx), ofGroup_cons_of_ne hx, hrest]

/-- A table made from another row by row, where what a row becomes depends on the rows of its group up
to it. -/
structure Groupwise (key : α → κ) (key' : γ → κ) (layer : List α → List γ) : Prop where
  keys : ∀ xs, (layer xs).map key' = xs.map key
  groups : ∃ onGroup : List α → List γ, Causal onGroup ∧
    ∀ k xs, ofGroup key' k (layer xs) = onGroup (ofGroup key k xs)

theorem groupwise_withOver (key : α → κ) (key' : γ → κ) {f : List α → List β} (hf : Causal f)
    (hlength : ∀ xs, (f xs).length = xs.length) (attach : α → Option β → γ)
    (hkey : ∀ x b, key' (attach x b) = key x) : Groupwise key key' (withOver key f attach) where
  keys xs := map_withOver key' key hkey xs
  groups := by
    refine ⟨fun xs => List.zipWith attach xs ((f xs).map some), ?_, ?_⟩
    · exact causal_id.zipWith ((causal_map some).comp hf) attach
    · intro k xs
      have hzero : (f (ofGroup key k xs)).length =
          (ofGroup key k ([] : List α)).length + (ofGroup key k xs).length := by
        rw [hlength]
        exact (Nat.zero_add _).symm
      exact ofGroup_overFrom hkey xs [] xs hzero

theorem ofGroup_map {g : α → γ} (hkey : ∀ x, key' (g x) = key x) (k : κ) (xs : List α) :
    ofGroup key' k (xs.map g) = (ofGroup key k xs).map g := by
  unfold ofGroup
  rw [List.filter_map]
  congr 2
  funext x
  exact decide_eq_decide.mpr (by rw [hkey])

theorem groupwise_map {g : α → γ} (hkey : ∀ x, key' (g x) = key x) :
    Groupwise key key' (List.map g) where
  keys xs := by
    rw [List.map_map]
    exact List.map_congr_left fun x _ => hkey x
  groups := by
    exact ⟨List.map g, causal_map g, fun k xs => ofGroup_map hkey k xs⟩

theorem Groupwise.comp {δ : Type} {key'' : δ → κ} {second : List γ → List δ} {first : List α → List γ}
    (hsecond : Groupwise key' key'' second) (hfirst : Groupwise key key' first) :
    Groupwise key key'' fun xs => second (first xs) where
  keys xs := (hsecond.keys (first xs)).trans (hfirst.keys xs)
  groups := by
    obtain ⟨onSecond, hcausal, hgroup⟩ := hsecond.groups
    obtain ⟨onFirst, hcausal', hgroup'⟩ := hfirst.groups
    refine ⟨fun xs => onSecond (onFirst xs), hcausal.comp hcausal', ?_⟩
    intro k xs
    rw [hgroup, hgroup']

/-- A row stands in its group after the rows of the group that come before it. -/
theorem getElem?_ofGroup (key : α → κ) {xs : List α} {i : ℕ} {x : α} (h : xs[i]? = some x) :
    (ofGroup key (key x) xs)[((xs.map key).take i).count (key x)]? = some x := by
  induction xs generalizing i with
  | nil => cases h
  | cons y ys ih =>
    cases i with
    | zero =>
      obtain rfl : y = x := Option.some.inj h
      rw [ofGroup_cons_of_eq rfl]
      rfl
    | succ i =>
      have hrest := ih h
      rw [List.map_cons, List.take_succ_cons, List.count_cons]
      by_cases hy : key y = key x
      · rw [ofGroup_cons_of_eq hy, if_pos (beq_iff_eq.mpr hy)]
        exact hrest
      · rw [ofGroup_cons_of_ne hy, if_neg (by simpa using hy)]
        exact hrest

/-- Where a table of as many rows has the same group up to a row, a groupwise layer makes the same of
that row. -/
theorem Groupwise.getElem?_eq {layer : List α → List γ} (h : Groupwise key key' layer)
    {whole seen : List α} {n i : ℕ} (hi : i < n) (hkeys : seen.map key = (whole.map key).take n)
    {x : α} (hx : whole[i]? = some x)
    (hgroup : ofGroup key (key x) seen <+: ofGroup key (key x) whole) :
    (layer seen)[i]? = (layer whole)[i]? := by
  obtain ⟨onGroup, hcausal, hgroups⟩ := h.groups
  have hkey {xs : List α} (j : ℕ) : ((layer xs)[j]?).map key' = (xs[j]?).map key := by
    rw [← List.getElem?_map, h.keys, List.getElem?_map]
  have hwhole : ((layer whole)[i]?).map key' = some (key x) := by rw [hkey, hx, Option.map_some]
  have hseen : ((layer seen)[i]?).map key' = some (key x) := by
    rw [hkey, ← List.getElem?_map, hkeys, List.getElem?_take_of_lt hi, List.getElem?_map, hx,
      Option.map_some]
  obtain ⟨w, hw, hwkey⟩ := Option.map_eq_some_iff.mp hwhole
  obtain ⟨s, hs, hskey⟩ := Option.map_eq_some_iff.mp hseen
  have hwplace := getElem?_ofGroup key' hw
  have hsplace := getElem?_ofGroup key' hs
  rw [hwkey, hgroups, h.keys] at hwplace
  rw [hskey, hgroups, h.keys, hkeys, List.take_take, min_eq_left hi.le] at hsplace
  obtain ⟨later, hlater⟩ := hcausal.isPrefix hgroup
  have hplace := (List.getElem?_eq_some_iff.mp hsplace).1
  rw [← hlater, List.getElem?_append_left hplace, hsplace] at hwplace
  rw [hs, hw, hwplace]

theorem ofGroup_take_isPrefix (key : α → κ) (k : κ) (n : ℕ) (xs : List α) :
    ofGroup key k (xs.take n) <+: ofGroup key k xs := (List.take_prefix n xs).filter _

/-- What is made group by group does not depend on later rows. -/
theorem Groupwise.causal {layer : List α → List γ} (h : Groupwise key key' layer) : Causal layer := by
  have hlength (xs : List α) : (layer xs).length = xs.length := by
    have hkeys := congrArg List.length (h.keys xs)
    rwa [List.length_map, List.length_map] at hkeys
  intro n xs
  apply List.ext_getElem?
  intro i
  by_cases hi : i < n
  · rw [List.getElem?_take_of_lt hi]
    cases hx : xs[i]? with
    | some x =>
      exact h.getElem?_eq hi List.map_take hx (ofGroup_take_isPrefix key (key x) n xs)
    | none =>
      have hbeyond : xs.length ≤ i := List.getElem?_eq_none_iff.mp hx
      rw [List.getElem?_eq_none_iff.mpr, List.getElem?_eq_none_iff.mpr]
      · rw [hlength]
        exact hbeyond
      · rw [hlength, List.length_take]
        omega
  · rw [List.getElem?_eq_none_iff.mpr, List.getElem?_eq_none_iff.mpr]
    · rw [List.length_take]
      omega
    · rw [hlength, List.length_take]
      omega

end Groups

end Library
