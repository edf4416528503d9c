import Canopen.Proofs.Yaml.Nodes

/-!
# Building nodes token by token

A token first settles what it shows to be missing, and then it is consumed.  What stands at the end
of the tokens read so far tells which tag the next node has, so whatever has been read of a text
comes from its tokens.
-/

namespace Canopen.Yaml.Builder

variable {read done : List Token} {token : Token} {builder after : Builder}

/-! ## Settling -/

/-- Inside the document a token finds a node that may start, a collection that awaits none, or it
starts a node where none may be. -/
def Ready (done : List Token) (token : Token) (builder : Builder) : Prop :=
  builder.Spelled (done ++ [token]) ∧ (Settled done token builder.frames ∨ builder.Sated) ∨
    endsNode token = false ∧ builder.Sated

/-- Nothing changes, or the innermost collection is sated. -/
structure Proceeds (read : List Token) (builder after : Builder) : Prop where
  spelled : builder.Spelled read → after.Spelled read
  sated : after = builder ∨ after.Sated

theorem Proceeds.trans {middle : Builder} (first : Proceeds read builder middle)
    (second : Proceeds read middle after) : Proceeds read builder after where
  spelled := fun spelled => second.spelled (first.spelled spelled)
  sated := by
    rcases second.sated with rfl | sated
    · exact first.sated
    · exact .inr sated

/-- What has been read of a text comes from the tokens, before the document, in it or behind it. -/
inductive Follows (done : List Token) (builder : Builder) : Prop where
  | before (early : builder.phase = .start ∨ builder.phase = .directives ∨ builder.phase = .opened)
      (graph : builder.graph.Spelled done) (empty : builder.frames = [])
      (handles : ∀ entry ∈ builder.handles, Token.tagDirective entry.1 entry.2 ∈ done)
      (marks : Marks done none)
  | inside (content : builder.phase = .content) (stands : builder.Stands done)
  | behind (late : builder.phase.isOver = true) (graph : builder.graph.Spelled done)

theorem Follows.graph (follows : builder.Follows read) : builder.graph.Spelled read := by
  cases follows with
  | before early graph empty handles marks => exact graph
  | inside content stands => exact stands.1.graph
  | behind late graph => exact graph

end Canopen.Yaml.Builder
