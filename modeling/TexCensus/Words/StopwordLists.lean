import TexCensus.Text.Basic

/-!
# The stopword lists of the library

Lists for two languages, in lower case and in alphabetical order. Words are separated by blanks.
-/

namespace TexCensus.StopwordLists

/-- Portuguese stopwords. -/
def portuguese : List String := [
  "a à ao aos aquela aquelas aquele aqueles aquilo as às até com como da das de dela delas",
  "dele deles depois do dos e é ela elas ele eles em entre era eram éramos essa essas esse",
  "esses esta está estamos estão estar estas estava estavam estávamos este esteja estejam",
  "estejamos estes esteve estive estivemos estiver estivera estiveram estivéramos estiverem",
  "estivermos estivesse estivessem estivéssemos estou eu foi fomos for fora foram fôramos",
  "forem formos fosse fossem fôssemos fui há haja hajam hajamos hão havemos haver hei houve",
  "houvemos houver houvera houverá houveram houvéramos houverão houverei houverem houveremos",
  "houveria houveriam houveríamos houvermos houvesse houvessem houvéssemos isso isto já lhe",
  "lhes mais mas me mesmo meu meus minha minhas muito na não nas nem no nos nós nossa nossas",
  "nosso nossos num numa o os ou para pela pelas pelo pelos por qual quando que quem são se",
  "seja sejam sejamos sem ser será serão serei seremos seria seriam seríamos seu seus só",
  "somos sou sua suas também te tem tém temos tenha tenham tenhamos tenho terá terão terei",
  "teremos teria teriam teríamos teu teus teve tinha tinham tínhamos tive tivemos tiver",
  "tivera tiveram tivéramos tiverem tivermos tivesse tivessem tivéssemos tu tua tuas um uma",
  "você vocês vos"]

/-- English stopwords. -/
def english : List String := [
  "i me my myself we our ours ourselves you you're you've you'll you'd your yours yourself",
  "yourselves he him his himself she she's her hers herself it it's its itself they them",
  "their theirs themselves what which who whom this that that'll these those am is are was",
  "were be been being have has had having do does did doing a an the and but if or because as",
  "until while of at by for with about against between into through during before after above",
  "below to from up down in out on off over under again further then once here there when",
  "where why how all any both each few more most other some such no nor not only own same so",
  "than too very s t can will just don don't should should've now d ll m o re ve y ain aren",
  "aren't couldn couldn't didn didn't doesn doesn't hadn hadn't hasn hasn't haven haven't isn",
  "isn't ma mightn mightn't mustn mustn't needn needn't shan shan't shouldn shouldn't wasn",
  "wasn't weren weren't won won't wouldn wouldn't"]

end TexCensus.StopwordLists
