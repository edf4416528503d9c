import Canopen.Yaml.Node

/-!
# Tags in front of nodes

A tag belongs to the node behind it, and an anchor may stand between them.  What it spells goes by
its handle, which a directive may have declared.
-/

namespace Canopen.Yaml

/-- The tokens end with a tag, or with a tag and an anchor. -/
inductive EndsTagged (before : List Token) (handle : Option String) (suffix : String) :
    List Token → Prop where
  | tag : EndsTagged before handle suffix (before ++ [.tag handle suffix])
  | anchor (name : String) :
      EndsTagged before handle suffix (before ++ [.tag handle suffix] ++ [.anchor name])

/-- What a tag spells behind the tokens before it. -/
inductive Resolves (before : List Token) : Option String → String → String → Prop where
  | verbatim (suffix : String) : Resolves before none suffix suffix
  | declared {handle start : String} (directive : Token.tagDirective handle start ∈ before)
      (suffix : String) : Resolves before (some handle) suffix (start ++ suffix)
  | usual {handle start : String} (usual : (handle, start) ∈ Builder.usualHandles)
      (suffix : String) : Resolves before (some handle) suffix (start ++ suffix)

/-- The tag of a node that starts behind the tokens, if one is written in front of it. -/
inductive Marks (front : List Token) : Option String → Prop where
  | none (untagged : ∀ before handle suffix, ¬ EndsTagged before handle suffix front) :
      Marks front none
  | tag {before : List Token} {handle : Option String} {suffix uri : String}
      (ends : EndsTagged before handle suffix front)
      (resolved : Resolves before handle suffix uri) : Marks front (some uri)

/-- The tag of a scalar with a tag in front of it; an exclamation mark alone tells it to go by its
form. -/
def markedTag (uri text : String) : Tag :=
  if uri = "!" then .ofPlain text else .ofUri uri

/-- The token ends a node that has nothing but properties. -/
def endsNode : Token → Bool
  | .blockSequenceStart | .blockMappingStart | .flowSequenceStart | .flowMappingStart | .alias _
  | .anchor _ | .tag _ _ | .scalar _ _ => false
  | _ => true

/-- A scalar of a text, with its tag and its style: it is written, or there is only a tag in its
place. -/
inductive ScalarOrigin (read : List Token) : Option String → Style → String → Prop where
  | written {before after : List Token} {mark : Option String} {style : Style} {text : String}
      (spelled : read = before ++ .scalar style text :: after) (marks : Marks before mark) :
      ScalarOrigin read mark style text
  | leftOut {before after : List Token} {uri : String} {token : Token}
      (spelled : read = before ++ token :: after) (ends : endsNode token = true)
      (marks : Marks before (some uri)) : ScalarOrigin read (some uri) .plain ""

/-- A tag is written in front of a node. -/
def TagsNode (read : List Token) (uri : String) : Prop :=
  ∃ before after, read = before ++ after ∧ Marks before (some uri)

/-- A tag is written in front of a mapping. -/
def TagsMapping (read : List Token) (uri : String) : Prop :=
  ∃ before start after, read = before ++ start :: after ∧
    (start = .blockMappingStart ∨ start = .flowMappingStart) ∧ Marks before (some uri)

variable {read before front : List Token} {mark : Option String} {style : Style} {text uri : String}
  {token : Token}

/-! ## More tokens -/

theorem ScalarOrigin.more (origin : ScalarOrigin read mark style text) (more : List Token) :
    ScalarOrigin (read ++ more) mark style text := by
  cases origin with
  | written spelled marks =>
      exact .written (by rw [spelled, List.append_assoc, List.cons_append]) marks
  | leftOut spelled ends marks =>
      exact .leftOut (by rw [spelled, List.append_assoc, List.cons_append]) ends marks

theorem TagsNode.more (tags : TagsNode read uri) (more : List Token) :
    TagsNode (read ++ more) uri := by
  obtain ⟨before, after, rfl, marks⟩ := tags
  exact ⟨before, after ++ more, List.append_assoc _ _ _, marks⟩

theorem TagsMapping.more (tags : TagsMapping read uri) (more : List Token) :
    TagsMapping (read ++ more) uri := by
  obtain ⟨before, start, after, rfl, starts, marks⟩ := tags
  exact ⟨before, start, after ++ more, by rw [List.append_assoc, List.cons_append], starts, marks⟩

end Canopen.Yaml
