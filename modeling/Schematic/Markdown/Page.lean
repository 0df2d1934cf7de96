import Schematic.Log.Record

namespace Schematic

structure Page where
  text : Text
  records : List Record
deriving DecidableEq, Inhabited, Repr

namespace Page

def empty : Page := ⟨[], []⟩

def ofText (t : Text) : Page := ⟨t, []⟩

def log (level : Level) (message : Text) : Page := ⟨[], [⟨level, message⟩]⟩

instance : Append Page := ⟨fun p q => ⟨p.text ++ q.text, p.records ++ q.records⟩⟩

@[simp] theorem text_append (p q : Page) : (p ++ q).text = p.text ++ q.text := rfl

@[simp] theorem records_append (p q : Page) : (p ++ q).records = p.records ++ q.records := rfl

@[simp] theorem text_ofText (t : Text) : (ofText t).text = t := rfl

@[simp] theorem records_ofText (t : Text) : (ofText t).records = [] := rfl

end Page
end Schematic
