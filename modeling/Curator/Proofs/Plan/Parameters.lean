import Curator.Proofs.Plan.Alike
import Curator.Proofs.Schema.Sample
import Curator.Proofs.Sql.Placed
/-!
# Values and statements

The values in a request never enter the text of a statement.  They are its parameters, each in the
place of its own operand.
-/

set_option autoImplicit false

namespace Curator

open Sql Outcome

namespace Plan

/-- Requests of one shape have the same statements but for their parameters, whatever values they
hold.  And in every statement of a selection, those of plans among them, there are as many
placeholders as parameters, and each parameter stands where the operand of its test belongs. -/
theorem values_are_parameters :
    (∀ (setting : Setting) (later : Calendar.Moment) (schema : Schema) (first second : Spec)
      (trashed : TrashedMode) (listAll : Bool) (equals : Record) (plan other : Plan) (d : Dialect),
      first.Alike setting.now later second →
      compile setting schema first trashed listAll equals = .ok plan →
      compile { setting with now := later } schema second trashed listAll equals = .ok other →
        (∀ f g, plan.fetchSql d = .ok f → other.fetchSql d = .ok g → f.sql = g.sql) ∧
        (∀ f g, plan.totalSql d = .ok f → other.totalSql d = .ok g → f.sql = g.sql) ∧
        ∀ (paginate : Bool) (s t : Select), plan.selection d paginate = .ok s →
          other.selection d paginate = .ok t →
            (∀ f g, s.toSql = .ok f → t.toSql = .ok g → f.sql = g.sql) ∧
            ∀ (function : Value) (column : Option Column) (f g : Fragment),
              s.aggregateSql function column = .ok f → t.aggregateSql function column = .ok g →
                f.sql = g.sql) ∧
    (∀ (s : Select) (f : Fragment), s.Made → s.Renders f → f.InPlace s) ∧
    ∀ (plan : Plan) (d : Dialect) (paginate : Bool) (s : Select),
      plan.selection d paginate = .ok s → s.Made := by
  refine ⟨?_, fun s f made renders => made.inPlace renders, fun _ _ _ _ ok => selection_made ok⟩
  intro setting later schema first second trashed listAll equals plan other d alike plan_ok other_ok
  -- up to their parameters the selections are the same, and a text depends on nothing else
  have plans := compile_alike alike plan_ok other_ok
  refine ⟨?_, ?_, ?_⟩
  · intro f g f_ok g_ok
    obtain ⟨s, s_ok, f_ok⟩ := fetchSql_ok f_ok
    obtain ⟨t, t_ok, g_ok⟩ := fetchSql_ok g_ok
    exact Select.toSql_of_bare (selection_alike plans s_ok t_ok) f_ok g_ok
  · intro f g f_ok g_ok
    obtain ⟨s, s_ok, f_ok⟩ := totalSql_ok f_ok
    obtain ⟨t, t_ok, g_ok⟩ := totalSql_ok g_ok
    exact Select.aggregateSql_of_bare (selection_alike plans s_ok t_ok) f_ok g_ok
  · intro paginate s t s_ok t_ok
    have same := selection_alike plans s_ok t_ok
    exact ⟨fun f g f_ok g_ok => Select.toSql_of_bare same f_ok g_ok,
      fun function column f g f_ok g_ok => Select.aggregateSql_of_bare same f_ok g_ok⟩

end Plan

namespace Sample

/-- The request for folders with other values. -/
def otherFolderRequest : Spec :=
  { folderRequest with
    filter := .dict [("OR", .list [.dict [("name", .dict [("eq", .str "' OR 1 = 1 --")])],
      .dict [("parent_id", .dict [("isNull", .str "yes")])]])]
    search := "%" }

theorem folderRequests_alike : folderRequest.Alike default default otherFolderRequest where
  fields := rfl
  sort := rfl
  group := rfl
  limit := rfl
  method := rfl
  page := rfl
  search := by decide
  filter := by
    refine .group (by decide) (.item (.field (by decide) (.cons ⟨rfl, ?_⟩ .nil) .noEntries)
      (.item (.field (by decide) (.cons ⟨rfl, ?_⟩ .nil) .noEntries) .noItems)) .noEntries
    · intro operator named
      have eq : operator = .eq := by
        have found : Operator.ofName? "eq" = some .eq := by decide
        exact Option.some.inj (named.symm.trans found)
      subst eq
      exact .single ⟨nofun, nofun⟩ nofun ⟨nofun, nofun⟩ nofun
    · intro operator named
      have check : operator = .isNull := by
        have found : Operator.ofName? "isNull" = some .isNull := by decide
        exact Option.some.inj (named.symm.trans found)
      subst check
      rfl

end Sample

/-- A request with a hostile value makes the statement of a harmless one. -/
theorem Sample.folder_values_are_parameters : ∃ f g s,
    Sample.folderSql Sample.folderRequest .sqlite = .ok f ∧
    Sample.folderSql Sample.otherFolderRequest .sqlite = .ok g ∧ f.sql = g.sql ∧ f.InPlace s := by
  have rendered : (Sample.folderSql Sample.folderRequest .sqlite).isOk = true ∧
      (Sample.folderSql Sample.otherFolderRequest .sqlite).isOk = true := by
    decide +kernel
  obtain ⟨f, f_ok⟩ := ok_of_isOk rendered.1
  obtain ⟨g, g_ok⟩ := ok_of_isOk rendered.2
  obtain ⟨plan, s, plan_ok, plan_renders, s_ok, text⟩ := Sample.folderSql_ok f_ok
  obtain ⟨other, _, other_ok, other_renders, _⟩ := Sample.folderSql_ok g_ok
  have same := (Plan.values_are_parameters.1 Sample.folderSetting default Sample.folderSchema _ _
    .exclude false [] plan other .sqlite Sample.folderRequests_alike plan_ok other_ok).1
  have made := Plan.values_are_parameters.2.2 plan .sqlite true s s_ok
  exact ⟨f, g, s, f_ok, g_ok, same f g plan_renders other_renders,
    Plan.values_are_parameters.2.1 s f made (Or.inl text)⟩

end Curator
