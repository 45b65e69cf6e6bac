import SqlCluster.Conversion.Basic
import SqlCluster.Calendar.Epoch
import SqlCluster.Calendar.Iso
import SqlCluster.Calendar.Layout
import SqlCluster.Text.Split
/-!
Timestamps from the ways in which a store keeps them: seconds since the epoch or a text. The result
is always aware; a text without an offset is read as universal time.
-/
namespace SqlCluster.Conversion

open Calendar

def spellOffset (cs : List Char) : List Char := Text.replaceChar 'Z' "+00:00".toList cs

def momentOfText? (cs : List Char) : Option Moment :=
  match Layout.all.findSome? (Layout.read? · cs) with
  | some m => some m.orUtc
  | none => (Iso.moment? (spellOffset cs)).map Moment.orUtc

def moment (v : Value) : Except ConversionError Moment :=
  match v with
  | .moment m => .ok m
  | .bool _ => .error (.truthAsTime v)
  | .int n => match Epoch.ofSeconds? n with
      | some m => .ok m
      | none => .error (.epoch v)
  | .float d => match Epoch.ofDouble? d with
      | some m => .ok m
      | none => .error (.epoch v)
  | v => match v.text? with
      | some s => match momentOfText? (Text.trim Text.isBlank s.toList) with
          | some m => .ok m
          | none => .error (.timeText v)
      | none => .error (.timeType v)

end SqlCluster.Conversion
