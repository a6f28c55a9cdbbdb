import CorpusQuery.Sql.Select

namespace CorpusQuery

/-! Restrictions of a query to the transcripts that someone may see. -/

open Sql

inductive Access where
  /-- A condition of the caller's. -/
  | condition (fragment : Fragment)
  /-- The transcripts that the roles of a user give access to. -/
  | user (id : String)

namespace Access

/-- The roles whose permissions reach transcripts. -/
def roles (permission : List Fragment) : Select :=
  { columns := [[.words "*"]]
    source := [.named "role"]
    joins :=
      [.inner [.named "role_permission"] "role_permission"
        (equalColumns ("role_permission", "user_role_id") ("role", "role_id") :: permission ++
          [[.column "role_permission" "entity", .words " REGEXP ", .marker ".*t.*"]])] }

/-- A role of the user permits a value of an attribute that the transcript has. -/
def byAttribute (id : String) (graph : Fragment) : Fragment :=
  let permitted :=
    (roles []).join
      (.inner [.words "annotation_transcript"] "access_attribute"
        [equalColumns ("access_attribute", "layer") ("role_permission", "attribute_name"),
          [.column "access_attribute" "label", .words " REGEXP ",
            .column "role_permission" "value_pattern"]])
  .words "EXISTS " ::
    Fragment.parenthesized
      (((permitted.restrict [.column "role" "user_id", .words " = ", .bound (.text id)]).restrict
        (.column "access_attribute" "ag_id" :: .words " = " :: graph)).subquery)

/-- A role of the user permits the transcript's corpus. -/
def byCorpus (id : String) (graph : Fragment) : Fragment :=
  let permitted :=
    (roles [[.column "role_permission" "attribute_name", .words " = ", .marker "corpus"]]).join
      (.inner [.words "transcript"] "access_transcript"
        [[.column "access_transcript" "corpus_name", .words " REGEXP ",
          .column "role_permission" "value_pattern"]])
  .words "EXISTS " ::
    Fragment.parenthesized
      (((permitted.restrict [.column "role" "user_id", .words " = ", .bound (.text id)]).restrict
        (.column "access_transcript" "ag_id" :: .words " = " :: graph)).subquery)

/-- The condition on the graph whose id the expression `graph` is, in parentheses. -/
def restriction (access : Access) (graph : Fragment) : Fragment :=
  match access with
  | .condition fragment => fragment.parenthesized
  | .user id =>
      Fragment.parenthesized (Fragment.disjunction [byAttribute id graph, byCorpus id graph])

end Access

end CorpusQuery
