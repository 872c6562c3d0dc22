import Phrasebook.Label.Substitution
import Phrasebook.Markup.Render

/-!
# Rendering a label

A label is rendered in two passes: its tokens are filled in first, and then its
markup is applied to the text that results. A pass is left out where its opening
character does not occur, or, for markup, where the rendering says so.
-/

namespace Phrasebook
namespace Rendering

def render (r : Rendering) (label : String) : Logged String := do
  let filled ←
    if label.toList.contains '{' then r.fillTokens label else pure label
  if filled.toList.contains '[' && !r.options.skipDecorations then
    r.fillMarkup filled
  else pure filled

end Rendering
end Phrasebook
