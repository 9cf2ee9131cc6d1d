import Maximus.Overrides

/-!
# The colon-separated `int32` options

`-dip3params`, `-dip8params`, `-budgetparams`, `-llmqtestparams`, `-llmqtestinstantsendparams`
and `-llmqdevnetparams` share one parser, `int32ParamsFromArgs`: split the value on `:`, demand
one field per expected entry, and parse each field with `ParseInt32`, throwing at the first
field that does not parse with the name of that field.

* `int32ParamsFromArgs_eq_some` : the parser returns a list exactly when the option is set, the
  value has one field per expected entry and every field parses; the list is the fields parsed.
* `int32ParamsFromArgs_error` : every error is the option's `malformed` message, or names the
  first field that does not parse together with the text of that field.
-/

namespace Maximus

variable {H : Headers}

/-! ### The loop over the fields -/

section Fields

variable (H)

/-- The loop of `int32ParamsFromArgs` succeeds exactly when `ParseInt32` accepts every field,
and returns what it returns. -/
theorem mapM_parseInt32Or_ok :
    ∀ (v whats : List String), v.length = whats.length → ∀ xs : List Int,
      (v.zip whats).mapM (fun f => parseInt32Or H f.1 f.2) = .ok xs ↔
        v.mapM H.parseInt32 = some xs
  | [], [], _, xs => by
    simp only [List.zip_nil_left, List.mapM_nil, pure, Except.pure, Except.ok.injEq,
      Option.some.injEq, eq_comm]
  | s :: v, w :: whats, hl, xs => by
    have ih := mapM_parseInt32Or_ok v whats (by simpa using hl)
    simp only [List.zip_cons_cons, List.mapM_cons]
    cases hs : H.parseInt32 s with
    | none => simp [parseInt32Or_of_none H hs, bind, Except.bind]
    | some x =>
      simp only [parseInt32Or_of_some H hs, pure_bind, Except.bind_eq_ok, ih, Option.pure_def,
        Option.bind_eq_bind, Option.some_bind, Option.bind_eq_some, pure, Except.pure,
        Except.ok.injEq, Option.some.injEq, exists_eq_left']
  | [], _ :: _, hl, _ | _ :: _, [], hl, _ => by simp at hl

/-- When the loop of `int32ParamsFromArgs` throws, it names the first field `ParseInt32`
rejects. -/
theorem mapM_parseInt32Or_error :
    ∀ (v whats : List String) (e : Fault),
      (v.zip whats).mapM (fun f => parseInt32Or H f.1 f.2) = .error e →
      ∃ i < whats.length, H.parseInt32 (v.getD i "") = none ∧
        (∀ j < i, H.parseInt32 (v.getD j "") ≠ none) ∧
        e = invalid (whats.getD i "") (v.getD i "")
  | [], _, e, h | _ :: _, [], e, h => by cases h
  | s :: v, w :: whats, e, h => by
    simp only [List.zip_cons_cons, List.mapM_cons] at h
    cases hs : H.parseInt32 s with
    | none =>
      rw [parseInt32Or_of_none H hs] at h
      exact ⟨0, by simp, hs, fun _ hj => absurd hj (Nat.not_lt_zero _),
        (Except.error.inj h).symm⟩
    | some x =>
      rw [parseInt32Or_of_some H hs, pure_bind] at h
      cases hr : (v.zip whats).mapM (fun f => parseInt32Or H f.1 f.2) with
      | error e' =>
        rw [hr] at h
        obtain ⟨i, hi, hn, hfirst, rfl⟩ := mapM_parseInt32Or_error v whats e' hr
        refine ⟨i + 1, by simpa using hi, hn, fun j hj => ?_, (Except.error.inj h).symm⟩
        cases j with
        | zero => simp [hs]
        | succ j => exact hfirst j (by omega)
      | ok ys => rw [hr] at h; cases h

end Fields

/-! ### The parser -/

variable {args : ArgsManager} {opt malformed : String} {whats : List String}

/-- The parser returns nothing exactly when the option is not set. -/
theorem int32ParamsFromArgs_eq_none :
    int32ParamsFromArgs H args opt malformed whats = .ok none ↔ args.isArgSet opt = false := by
  unfold int32ParamsFromArgs
  cases args.isArgSet opt
  · simp [pure, Except.pure]
  · simp only [Bool.not_true, Bool.false_eq_true, ↓reduceIte, Bool.true_eq_false, iff_false]
    split_ifs
    · simp [throw, throwThe, MonadExceptOf.throw, bind, Except.bind]
    · cases (H.splitString (args.getArg opt "") ':' |>.zip whats).mapM
        (fun f => parseInt32Or H f.1 f.2) <;> simp [Functor.map, Except.map]

/-- **What the parser accepts.**  It returns a list exactly when the option is set, the value
has one field per entry of `whats`, and `ParseInt32` accepts every field; the list is what
`ParseInt32` returns for the fields. -/
theorem int32ParamsFromArgs_eq_some {xs : List Int} :
    int32ParamsFromArgs H args opt malformed whats = .ok (some xs) ↔
      args.isArgSet opt = true ∧ (H.splitString (args.getArg opt "") ':').length = whats.length ∧
        (H.splitString (args.getArg opt "") ':').mapM H.parseInt32 = some xs := by
  unfold int32ParamsFromArgs
  cases args.isArgSet opt
  · simp [pure, Except.pure]
  · simp only [Bool.not_true, Bool.false_eq_true, ↓reduceIte, true_and]
    split_ifs with hl
    · simp [throw, throwThe, MonadExceptOf.throw, bind, Except.bind, hl]
    · have hloop := mapM_parseInt32Or_ok H _ whats (not_not.1 hl) xs
      cases hr : (H.splitString (args.getArg opt "") ':' |>.zip whats).mapM
          (fun f => parseInt32Or H f.1 f.2) <;>
        simp_all [Functor.map, Except.map, bind, Except.bind, pure, Except.pure]

/-- **How the parser fails.**  Every error is the option's `malformed` message, when the value
has the wrong number of fields, or names the first field `ParseInt32` rejects, with its text. -/
theorem int32ParamsFromArgs_error {e : Fault}
    (h : int32ParamsFromArgs H args opt malformed whats = .error e) :
    e = .runtimeError malformed ∨
      ∃ i < whats.length, H.parseInt32 ((H.splitString (args.getArg opt "") ':').getD i "") = none ∧
        (∀ j < i, H.parseInt32 ((H.splitString (args.getArg opt "") ':').getD j "") ≠ none) ∧
        e = invalid (whats.getD i "") ((H.splitString (args.getArg opt "") ':').getD i "") := by
  simp only [int32ParamsFromArgs] at h
  split_ifs at h
  · cases h
  · exact .inl (Except.error.inj h).symm
  · cases hr : (H.splitString (args.getArg opt "") ':' |>.zip whats).mapM
        (fun f => parseInt32Or H f.1 f.2) with
    | error e' =>
      rw [hr] at h
      cases h
      exact .inr (mapM_parseInt32Or_error H _ whats _ hr)
    | ok ys => rw [hr] at h; cases h

/- `-dip3params=1:x`: the second field does not parse, and the error names it. -/
example :
    int32ParamsFromArgs sampleHeaders (ArgsManager.ofList [("-dip3params", "1:x")]) "-dip3params"
        "DIP3 parameters malformed, expecting <activation>:<enforcement>"
        ["Invalid activation height", "Invalid enforcement height"] =
      .error (invalid "Invalid enforcement height" "x") := rfl

end Maximus
