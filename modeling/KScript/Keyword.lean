import KScript.Names

/-!
# Built-in names

The names that the canvas, audio and math interfaces of a sketch provide, and the words of the host
language.  A value that is one of them is a name and not a text.
-/

namespace KScript

namespace Keyword

/-- Drawing. -/
def canvas : List String :=
  ["background", "fill", "noFill", "stroke", "noStroke", "strokeWeight", "circle", "ellipse",
   "rect", "square", "line", "point", "triangle", "polygon", "arc", "text", "textSize",
   "textAlign", "image", "push", "pop", "translate", "rotate", "scale", "clear", "width",
   "height", "canvas", "ctx", "rgb", "rgba", "hsl", "hsla", "color", "glow", "blendMode"]

/-- Sound. -/
def audio : List String :=
  ["audio", "getVolume", "getFrequency", "getFrequencies", "getWaveform", "volume", "bass",
   "mid", "treble", "beat", "isBeat", "fft", "playAudio", "pauseAudio", "loadAudio"]

/-- Mathematics. -/
def math : List String :=
  ["Math", "PI", "TWO_PI", "HALF_PI", "sin", "cos", "tan", "atan2", "abs", "floor", "ceil",
   "round", "min", "max", "sqrt", "pow", "random", "noise", "map", "lerp", "constrain", "dist"]

/-- The life of a sketch, and the host language. -/
def host : List String :=
  ["setup", "draw", "time", "frameCount", "deltaTime", "mouseX", "mouseY", "log", "settings",
   "true", "false", "null", "undefined", "this", "new", "return", "break", "continue", "Array",
   "Object", "String", "Number", "JSON", "console"]

/-- All built-in names. -/
def builtin : Names := .ofList ((canvas ++ audio ++ math ++ host).map String.toList)

end Keyword

end KScript
