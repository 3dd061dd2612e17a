import RailsNavigator.Runner.Conversation

/-!
# Values and effects of traced operations

How values and effects go through the steps of an operation, and which operations have no effect but
notices. Such an operation can be taken apart: its notices are reported first, and its value is
given then.
-/

namespace RailsNavigator

namespace Traced

variable {α β : Type}

@[simp]
theorem value_pure (value : α) : (pure value : Traced α).value = value := rfl

@[simp]
theorem effects_pure (value : α) : (pure value : Traced α).effects = [] := rfl

@[simp]
theorem value_bind (first : Traced α) (next : α → Traced β) :
    (first >>= next).value = (next first.value).value := rfl

@[simp]
theorem effects_bind (first : Traced α) (next : α → Traced β) :
    (first >>= next).effects = first.effects ++ (next first.value).effects := rfl

@[simp]
theorem value_map (change : α → β) (traced : Traced α) :
    (change <$> traced).value = change traced.value := rfl

@[simp]
theorem effects_map (change : α → β) (traced : Traced α) :
    (change <$> traced).effects = traced.effects :=
  List.append_nil _

@[simp]
theorem effects_notice (reported : Log.Notice) :
    (notice reported).effects = [.notice reported] := rfl

/-- An operation reports notices and has no other effect. -/
def OnlyReports (traced : Traced α) : Prop :=
  ∃ notices : List Log.Notice, traced.effects = notices.map .notice

theorem onlyReports_pure (value : α) : (pure value : Traced α).OnlyReports := ⟨[], rfl⟩

theorem onlyReports_notice (reported : Log.Notice) : (notice reported).OnlyReports :=
  ⟨[reported], rfl⟩

theorem OnlyReports.bind {first : Traced α} {next : α → Traced β} (firstOnly : first.OnlyReports)
    (nextOnly : (next first.value).OnlyReports) : (first >>= next).OnlyReports := by
  rcases firstOnly with ⟨notices, effects⟩
  rcases nextOnly with ⟨further, furtherEffects⟩
  exact ⟨notices ++ further, by rw [effects_bind, effects, furtherEffects, List.map_append]⟩

/-- The operation that reports notices and gives a value. -/
def reporting (notices : List Log.Notice) (value : α) : Traced α :=
  ⟨value, notices.map .notice⟩

/-- Steps that report and give a value do so one after the other. -/
theorem mapM_reporting (notices : α → List Log.Notice) (value : α → β) (items : List α) :
    (items.mapM fun item => reporting (notices item) (value item))
      = reporting (items.flatMap notices) (items.map value) := by
  induction items with
  | nil => rfl
  | cons item rest ih =>
      rw [List.mapM_cons, ih]
      simp [reporting, bind, pure]

end Traced

namespace Runner.Conversation

variable {α : Type}

/-- The effects of an operation that only reports are its notices, one after the other. -/
theorem lift_eq_forM (value : α) (notices : List Log.Notice) :
    (StateT.lift ⟨value, notices.map .notice⟩ : Conversation α) = (do
      forM notices notice
      return value) := by
  induction notices with
  | nil => rfl
  | cons first rest hypothesis =>
      rw [List.forM_cons, bind_assoc, ← hypothesis]
      rfl

end Runner.Conversation

end RailsNavigator
