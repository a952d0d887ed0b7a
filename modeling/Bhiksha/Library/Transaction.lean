import Mathlib.Init

/-! One connection of a transactional store: statements change what the open transaction sees,
`commit` publishes it, and leaving the connection drops whatever was not committed. -/

namespace Library

/-- The committed database and what the open transaction sees of it. -/
structure Conn (D : Type) where
  disk : D
  pending : D

section Raise

variable {ε : Type} {m : Type → Type} [Monad m] [MonadExcept ε m]

/-- `if p: raise e`. -/
def raiseIf (p : Prop) [Decidable p] (e : ε) : m Unit := if p then throw e else pure ()

/-- `if x is None: raise e`. -/
def orRaise {α : Type} : Option α → ε → m α
  | some a, _ => pure a
  | none, e => throw e

end Raise

theorem raiseIf_eq_ok_iff {ε : Type} {p : Prop} [Decidable p] {e : ε} {u : Unit} :
    (raiseIf p e : Except ε Unit) = .ok u ↔ ¬p := by
  by_cases hp : p <;> simp [raiseIf, hp, pure, Except.pure, throw, throwThe, MonadExceptOf.throw]

theorem Except.bind_eq_ok_iff {ε α β : Type} {x : Except ε α} {f : α → Except ε β} {b : β} :
    (x >>= f) = .ok b ↔ ∃ a, x = .ok a ∧ f a = .ok b := by
  cases x with
  | error e => exact ⟨fun h => (by cases h), fun ⟨_, h, _⟩ => (by cases h)⟩
  | ok a => exact ⟨fun h => ⟨a, rfl, h⟩, fun ⟨_, h, hf⟩ => (by cases h; exact hf)⟩

/-- A block comes to a value if its first step does and then the rest. -/
theorem Except.exists_bind_eq_ok_iff {ε α β : Type} {x : Except ε α} {f : α → Except ε β} :
    (∃ b, (x >>= f) = .ok b) ↔ ∃ a, x = .ok a ∧ ∃ b, f a = .ok b := by
  constructor
  · rintro ⟨b, h⟩
    obtain ⟨a, ha, hb⟩ := Except.bind_eq_ok_iff.mp h
    exact ⟨a, ha, b, hb⟩
  · rintro ⟨a, ha, b, hb⟩
    exact ⟨b, Except.bind_eq_ok_iff.mpr ⟨a, ha, hb⟩⟩

theorem Except.eq_ok_of_mapError {ε ε' α : Type} {x : Except ε α} {f : ε → ε'} {a : α}
    (h : x.mapError f = .ok a) : x = .ok a := by
  cases x with
  | error e => cases h
  | ok b => exact congrArg Except.ok (Except.ok.inj h)

/-- A value of a loop over a list is that of one of its elements. -/
theorem Except.mem_of_mapM_eq_ok {ε α β : Type} {f : α → Except ε β} {xs : List α} {ys : List β}
    (h : xs.mapM f = .ok ys) {y : β} (hy : y ∈ ys) : ∃ x ∈ xs, f x = .ok y := by
  induction xs generalizing ys with
  | nil =>
    rw [List.mapM_nil] at h
    cases h
    exact absurd hy List.not_mem_nil
  | cons x xs ih =>
    rw [List.mapM_cons] at h
    obtain ⟨z, hz, h⟩ := Except.bind_eq_ok_iff.mp h
    obtain ⟨zs, hzs, h⟩ := Except.bind_eq_ok_iff.mp h
    obtain rfl : z :: zs = ys := Except.ok.inj h
    rcases List.mem_cons.mp hy with rfl | hmem
    · exact ⟨x, List.mem_cons_self, hz⟩
    · obtain ⟨w, hw, hfw⟩ := ih hzs hmem
      exact ⟨w, List.mem_cons_of_mem x hw, hfw⟩

theorem Except.forM_eq_ok_iff {ε α : Type} {f : α → Except ε Unit} {xs : List α} :
    xs.forM f = .ok () ↔ ∀ x ∈ xs, f x = .ok () := by
  induction xs with
  | nil => exact iff_of_true rfl fun x hx => absurd hx List.not_mem_nil
  | cons x xs ih =>
    change (f x >>= fun _ => xs.forM f) = _ ↔ _
    rw [Except.bind_eq_ok_iff, List.forall_mem_cons, ← ih]
    constructor
    · rintro ⟨_, hx, hxs⟩
      exact ⟨hx, hxs⟩
    · rintro ⟨hx, hxs⟩
      exact ⟨(), hx, hxs⟩

/-- Two loops in a row, the second over the values of the first. -/
theorem Except.mapM_forM_eq_ok_iff {ε α β : Type} {f : α → Except ε β} {g : β → Except ε Unit}
    {xs : List α} :
    (xs.mapM f >>= fun ys => ys.forM g) = .ok () ↔ ∀ x ∈ xs, ∃ y, f x = .ok y ∧ g y = .ok () := by
  rw [Except.bind_eq_ok_iff]
  induction xs with
  | nil =>
    rw [List.mapM_nil]
    exact iff_of_true ⟨[], rfl, rfl⟩ fun x hx => absurd hx List.not_mem_nil
  | cons x xs ih =>
    rw [List.mapM_cons, List.forall_mem_cons, ← ih]
    constructor
    · rintro ⟨_, h, hforM⟩
      obtain ⟨y, hy, h⟩ := Except.bind_eq_ok_iff.mp h
      obtain ⟨ys, hys, h⟩ := Except.bind_eq_ok_iff.mp h
      obtain rfl := Except.ok.inj h
      have hall := Except.forM_eq_ok_iff.mp hforM
      exact ⟨⟨y, hy, hall y List.mem_cons_self⟩, ys, hys,
        Except.forM_eq_ok_iff.mpr fun z hz => hall z (List.mem_cons_of_mem y hz)⟩
    · rintro ⟨⟨y, hy, hgy⟩, ys, hys, hforM⟩
      refine ⟨y :: ys, ?_, ?_⟩
      · rw [hy, hys]
        rfl
      · change (g y >>= fun _ => ys.forM g) = _
        rw [hgy]
        exact hforM

def Tx (ε D α : Type) := Conn D → Except ε α × Conn D

namespace Tx

variable {ε D α β : Type}

/-- The rest of a block runs only when what came before did not raise. -/
def andThen (x : Tx ε D α) (f : α → Tx ε D β) : Tx ε D β := fun c =>
  match x c with
  | (.ok a, c') => f a c'
  | (.error e, c') => (.error e, c')

instance : Monad (Tx ε D) where
  pure a := fun c => (.ok a, c)
  bind := andThen

instance : MonadLift (Except ε) (Tx ε D) where
  monadLift x := fun c => (x, c)

/-- A handler goes on with the same connection. -/
instance : MonadExcept ε (Tx ε D) where
  throw e := fun c => (.error e, c)
  tryCatch x handle := fun c =>
    match x c with
    | (.ok a, c') => (.ok a, c')
    | (.error e, c') => handle e c'

/-- A statement reads and changes the open transaction; one that raises changes nothing. -/
def statement (f : D → Except ε (α × D)) : Tx ε D α := fun c =>
  match f c.pending with
  | .ok (a, d) => (.ok a, { c with pending := d })
  | .error e => (.error e, c)

def query (q : D → α) : Tx ε D α := statement fun d => .ok (q d, d)

def execute (f : D → D) : Tx ε D Unit := statement fun d => .ok ((), f d)

def commit : Tx ε D Unit := fun c => (.ok (), ⟨c.pending, c.pending⟩)

/-- `if p: conn.rollback(); raise e`. -/
def rollbackRaiseIf (p : Prop) [Decidable p] (e : ε) : Tx ε D Unit := fun c =>
  if p then (.error e, ⟨c.disk, c.disk⟩) else (.ok (), c)

/-- A block whose last statement is its only commit. -/
def committing (body : Tx ε D Unit) : Tx ε D Unit := do
  body
  commit

/-- `with closing(connect())`: only committed changes survive the block. -/
def run (tx : Tx ε D α) (d : D) : Except ε α × D :=
  ((tx ⟨d, d⟩).1, (tx ⟨d, d⟩).2.disk)

theorem bind_of_ok {x : Tx ε D α} (f : α → Tx ε D β) {c c' : Conn D} {a : α}
    (h : x c = (.ok a, c')) : (x >>= f) c = f a c' := by
  change andThen x f c = _
  simp only [andThen, h]

theorem bind_of_error {x : Tx ε D α} (f : α → Tx ε D β) {c c' : Conn D} {e : ε}
    (h : x c = (.error e, c')) : (x >>= f) c = (.error e, c') := by
  change andThen x f c = _
  simp only [andThen, h]

theorem bind_eq_ok_iff {x : Tx ε D α} {f : α → Tx ε D β} {c c' : Conn D} {b : β} :
    (x >>= f) c = (.ok b, c') ↔ ∃ a d, x c = (.ok a, d) ∧ f a d = (.ok b, c') := by
  constructor
  · intro h
    rcases hx : x c with ⟨e | a, d⟩
    · rw [bind_of_error f hx] at h
      cases h
    · exact ⟨a, d, rfl, by rwa [bind_of_ok f hx] at h⟩
  · rintro ⟨a, d, hx, hf⟩
    rwa [bind_of_ok f hx]

theorem lift_eq_ok_iff {x : Except ε α} {c c' : Conn D} {a : α} :
    (liftM x : Tx ε D α) c = (.ok a, c') ↔ x = .ok a ∧ c = c' := by
  change (x, c) = _ ↔ _
  rw [Prod.mk.injEq]

theorem raiseIf_eq_ok_iff {p : Prop} [Decidable p] {e : ε} {c c' : Conn D} {u : Unit} :
    (raiseIf p e : Tx ε D Unit) c = (.ok u, c') ↔ ¬p ∧ c = c' := by
  by_cases hp : p <;> simp [raiseIf, hp, pure, throw]

theorem orRaise_eq_ok_iff {x : Option α} {e : ε} {c c' : Conn D} {a : α} :
    (orRaise x e : Tx ε D α) c = (.ok a, c') ↔ x = some a ∧ c = c' := by
  cases x <;> simp [orRaise, pure, throw]

theorem pure_eq_ok_iff {c c' : Conn D} {a b : α} :
    (pure a : Tx ε D α) c = (.ok b, c') ↔ a = b ∧ c = c' := by
  change (Except.ok a, c) = _ ↔ _
  simp

theorem statement_eq_ok_iff {f : D → Except ε (α × D)} {c c' : Conn D} {a : α} :
    statement f c = (.ok a, c') ↔ ∃ d, f c.pending = .ok (a, d) ∧ c' = { c with pending := d } := by
  unfold statement
  rcases f c.pending with e | ⟨b, d⟩
  · simp
  · simp only [Prod.mk.injEq, Except.ok.injEq]
    grind

theorem statement_eq_error_iff {f : D → Except ε (α × D)} {c c' : Conn D} {e : ε} :
    statement f c = (.error e, c') ↔ f c.pending = .error e ∧ c = c' := by
  unfold statement
  rcases f c.pending with e' | ⟨b, d⟩ <;> simp

theorem tryCatch_eq_ok_iff {x : Tx ε D α} {handle : ε → Tx ε D α} {c c' : Conn D} {a : α} :
    tryCatch x handle c = (.ok a, c') ↔
      x c = (.ok a, c') ∨ ∃ e d, x c = (.error e, d) ∧ handle e d = (.ok a, c') := by
  change (match x c with
    | (.ok a, c') => (Except.ok a, c')
    | (.error e, c') => handle e c') = _ ↔ _
  rcases x c with ⟨e | b, d⟩
  · simp only [Prod.mk.injEq, Except.error.injEq]
    grind
  · simp

theorem query_eq_ok_iff {q : D → α} {c c' : Conn D} {a : α} :
    (query q : Tx ε D α) c = (.ok a, c') ↔ q c.pending = a ∧ c = c' := by
  simp [query, statement]

theorem rollbackRaiseIf_eq_ok_iff {p : Prop} [Decidable p] {e : ε} {c c' : Conn D} {u : Unit} :
    (rollbackRaiseIf p e : Tx ε D Unit) c = (.ok u, c') ↔ ¬p ∧ c = c' := by
  by_cases hp : p <;> simp [rollbackRaiseIf, hp]

/-- The computation never publishes anything. -/
def KeepsDisk (tx : Tx ε D α) : Prop := ∀ c, (tx c).2.disk = c.disk

theorem keepsDisk_bind {x : Tx ε D α} {f : α → Tx ε D β} (hx : KeepsDisk x)
    (hf : ∀ a, KeepsDisk (f a)) : KeepsDisk (x >>= f) := by
  intro c
  have h := hx c
  rcases hr : x c with ⟨e | a, d⟩
  · rw [bind_of_error f hr]
    simpa only [hr] using h
  · rw [bind_of_ok f hr, hf a d]
    simpa only [hr] using h

theorem keepsDisk_statement (f : D → Except ε (α × D)) : KeepsDisk (statement f) := by
  intro c
  unfold statement
  split <;> rfl

theorem keepsDisk_query (q : D → α) : KeepsDisk (query q : Tx ε D α) := keepsDisk_statement _

theorem keepsDisk_execute (f : D → D) : KeepsDisk (execute f : Tx ε D Unit) :=
  keepsDisk_statement _

theorem keepsDisk_rollbackRaiseIf (p : Prop) [Decidable p] (e : ε) :
    KeepsDisk (rollbackRaiseIf p e : Tx ε D Unit) := by
  intro c
  unfold rollbackRaiseIf
  split <;> rfl

theorem keepsDisk_pure (a : α) : KeepsDisk (pure a : Tx ε D α) := fun _ => rfl

theorem keepsDisk_raiseIf (p : Prop) [Decidable p] (e : ε) :
    KeepsDisk (raiseIf p e : Tx ε D Unit) := by
  intro c
  unfold raiseIf
  split <;> rfl

theorem keepsDisk_orRaise (x : Option α) (e : ε) : KeepsDisk (orRaise x e : Tx ε D α) := by
  intro c
  cases x <;> rfl

theorem keepsDisk_tryCatch {x : Tx ε D α} {handle : ε → Tx ε D α} (hx : KeepsDisk x)
    (hh : ∀ e, KeepsDisk (handle e)) : KeepsDisk (tryCatch x handle) := by
  intro c
  have h := hx c
  change (match x c with
    | (.ok a, c') => (Except.ok a, c')
    | (.error e, c') => handle e c').2.disk = _
  rcases hr : x c with ⟨e | a, d⟩
  · rw [hr] at h
    exact (hh e d).trans h
  · rwa [hr] at h

theorem keepsDisk_lift (x : Except ε α) : KeepsDisk (liftM x : Tx ε D α) := fun _ => rfl

/-- A block that publishes only by its last `commit` raises without effect. -/
theorem run_unchanged_of_error {body : Tx ε D Unit} (hb : KeepsDisk body) {d : D} {e : ε}
    (h : (run (committing body) d).1 = .error e) : (run (committing body) d).2 = d := by
  unfold run committing at h ⊢
  have hd := hb ⟨d, d⟩
  rcases hr : body ⟨d, d⟩ with ⟨e' | u, c⟩
  · simpa only [bind_of_error _ hr, hr] using hd
  · rw [bind_of_ok _ hr] at h
    cases h

/-- What the last `commit` of a block publishes. -/
theorem run_eq_ok_iff {body : Tx ε D Unit} {d d' : D} :
    run (committing body) d = (.ok (), d') ↔ ∃ c, body ⟨d, d⟩ = (.ok (), c) ∧ c.pending = d' := by
  unfold run committing
  rcases hr : body ⟨d, d⟩ with ⟨e | u, c⟩
  · simp [bind_of_error _ hr]
  · simp [bind_of_ok _ hr, commit]

end Tx

end Library
