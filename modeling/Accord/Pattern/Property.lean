import Accord.Text.Case

namespace Accord.Pattern

/-- When characters came to be: a capital letter for the number of the release and a small one for
the number behind the point, and then how many characters, in base 36. -/
def releaseText : String := String.join [
  "AbdyCa4AbuCa8Cc1Da1CaiDa3DbbEaeAb2hCa5Da2Ab1bCa1AbaCa5DahAb1yCa9Cc1Da8Db5Da3Ab2Ca1CcdEb4Ab2Eb2",
  "Zz2Ab1Ea3Ab1Ga1Zz4Ab7Zz1Ab1Zz1AbkZz1Ab18Eb1Ab7Ca1Cc2Ab1Ca1Ab1Ca1Ab1Ca1Ab1Ca1AbiCb2Cc1Da5Db4Ca1",
  "AbcCa1Ab1uCa1AbcCa1Ab15Eb1Ca2Cc2Ca4Ab1hCc2Ab2Cc2Ab2Cc2Ea1AbsCa2Ab8Db2Ab2Ea6CcgEa4EbgEc2Fa2Ga8",
  "Zz1Ab12Zz2Ab7Ka1Ab13Ka1Ab1Ca1Zz2Ga2Fb1Zz1BahDb1BadAbaEa1Ab9Ba1Db3Zz8AbrZz4Ka1Ab5ZzbDa4Fb1Ga1Eb5",
  "Db1Ab1Da9Eb5Ab1Fd1Na1Db1Ab1Fa1AbqEb5AbjCa3Da3Db6Fa1AbeCc2Ab20Ca2Ab5Ca1AbfCa1AbuDa2AbaCa5Da1Cae",
  "Zz1CauDa3CarZz2Da3DbuEbiCa1dCc1ZzeEa1nZz2Ka3Ec1aZz2EcfZz1FasZz2Fa1Zz1JabZz5NavZz1Na2Zz5Pa1Na8",
  "Fb1Ga1FbbGa6Ha2Na1Ia8MaaNabKa1IafHa1FbrGa1Ec1Ab3Da1Ab1hFa2AbiEc1Fa1Ab5Ec1Fa2AbpEb2Fa5Ga1Ec2Ea2",
  "Db1Ea2Ga1Ab3Zz1Ab8Zz2Ab2Zz2AbmZz1Ab7Zz1Ab1Zz3Ab4Zz2Ab1Da1Ab7Zz2Ab2Zz2Ab3Db1Zz8Ab1Zz4Ab2Zz1Ab5",
  "Zz2AblEc1Ja2Ka1Zz2Da1Ab1Da1Zz1Ab6Zz4Ab2Zz2AbmZz1Ab7Zz1Ab2Zz1Ab2Zz1Ab2Zz2Ab1Zz1Ab5Zz4Ab2Zz2Ab3",
  "Zz3Eb1Zz7Ab4Zz1Ab1Zz7AbfEb1Ka1ZzaAb3Zz1Ab7Da1Ab1Zz1Ab3Zz1AbmZz1Ab7Zz1Ab2Zz1Ab5Zz2AbaZz1Ab3Zz1",
  "Ab3Zz2Ab1ZzfAb1Da3Zz2AbaFb1Da1Zz7Ha1Ja6Zz1Ab3Zz1Ab8Zz2Ab2Zz2AbmZz1Ab7Zz1Ab2Zz1Da1Ab4Zz2Ab8Eb1",
  "Zz2Ab2Zz2Ab3Zz7Ma1Ab2Zz4Ab2Zz1Ab3Eb2Zz2AbbDa1Fa6ZzaAb2Zz1Ab6Zz3Ab3Zz1Ab4Zz3Ab2Zz1Ab1Zz1Ab2Zz3",
  "Ab2Zz3Ab3Zz3Ab8Db1Ab3Zz4Ab5Zz3Ab3Zz1Ab4Zz2Eb1Zz6Ab1ZzeDb1AbcDa8Zz5Ga1Ab3Ka1Ab8Zz1Ab3Zz1AbnZz1",
  "AbaGa1Ab5Zz2Na1Eb1Ab7Zz1Ab3Zz1Ab4Zz7Ab2Zz1Eb2Ha1Zz2Na1Zz2Ab2Eb2Zz2AbaZz7La1Eb8Ia1Ga1Ab2Ka1Ab8",
  "Zz1Ab3Zz1AbnZz1AbaZz1Ab5Zz2Da2Ab7Zz1Ab3Zz1Ab4Zz7Ab2Zz6Na1Ab1Zz1Ab2Ea2Zz2AbaZz1Ea2Oa1ZzcJa1Ga1",
  "Ab2Ma1Ab8Zz1Ab3Zz1AbnFa1AbgFa1Ja2Eb1Ab6Eb1Zz1Ab3Zz1Ab4Fa1Ia1Zz4Ia3Ab1Ia7Ha1Ab2Eb2Zz2AbaEb6Ia3",
  "Eb7Zz1Ma1Ca2Zz1CaiZz3CaoZz1Ca9Zz1Ca1Zz2Ca7Zz3Ca1Zz4Ca6Zz1Ca1Zz1Ca8Zz6GaaZz2Ca3ZzcAb1mZz4AbtZz11",
  "Ab2Zz1Ab1Zz1La1Ab2La1Ab1Zz1La1Ab1La6Ab4La1Ab7La1Ab3Zz1Ab1Zz1Ab1La2Ab2La1AbdLa1Ab3Zz2Ab5Zz1Ab1",
  "Zz1Ab6Oa1Zz1AbaZz2Ab2Fb2ZzwBa20Zz1BaxCa1Eb2Zz4BarFa4Ba6Ca1Ba1Zz1BalCa3Ba7Ca1Ba1Ca3Zz1CafZz1Eb1",
  "Ca1Db2Eb3Ec4Fa2Zz11CayEb1Ca5Eb1Ca2Eb1Ca7Eb3Ca4Eb6CaqEb1sEc4Eb2Ab12Zz1Fb1Zz5Fb1Zz2Ab13Cc2Db2Ab1",
  "Db1Fb3Ab2iEc5Ab1wEc5Ab2aEc6Ca7Db1Ca1rDb1Ca1Zz1Ca4Zz2Ca7Zz1Ca1Zz1Ca4Zz2Ca13Db1Ca1Zz1Ca4Zz2CavDb1",
  "Ca1Zz1Ca4Zz2Ca7Zz1Ca1Zz1Ca4Zz2Ca7Db1Ca7Zz1CanDb1CavDb1Ca1Zz1Ca4Zz2Ca7Db1Ca13Db1CajZz2Fa2Db2Cas",
  "Zz3DbqZz6Ca2dHa1Zz2Ha6Zz2Ec1CahiEc9CatZz3Ca29Ga8Zz7CcdNa1Cc7Na1Zz9Na1CcnZz9CckZzcCcdZz1Cc3Zz1",
  "Cc2ZzcCa2lDa1Zz2CaaZz6DaaZz6CafNa1CaaZz6Ca2gKa1Zz7Ca16Eb1Zz5Ec1yZzaDatGa2Zz1DacZz4DacZz4Da1Zz3",
  "Da16Zz2Da5ZzbDb16Ec2Zz4DbqZz6DbaEc1Zz3Db2DawDbsZz2Db2Ec1rZz1EctZz2EcbZz6EcaZz6EceZz2GafMa2Nae",
  "Zz1dEa24Na1Zz1Pa2Ea19Na2Pa1Eb17Fb3EbcFb6Fa1gZz8Fa4Eb1kZz3EbfZz3Eb1fIa9Pa2Zz5Ka17Zz2Ka3Fb8Zz8Ecz",
  "Fb4Ja1Ga2La1Zz5Da30Db2gEa7EbsGafJa4Na1Ia1Fa1Ec1Ea2Ab4bBa1Eb4Ab2iEb6AbmZz2Ab6Zz2Ab12Zz2Ab6Zz2Ab8",
  "Zz1Ab1Zz1Ab1Zz1Ab1Zz1AbvZz2Ab1hZz1AbfZz1AbeZz2Ab6Zz1AbjZz2Ab3Zz1Ab9Zz1Ab1bCa1AbnCc1Ca6Cc5Da2Db2",
  "Cc1Db7Cc5Eb1Zz1Fd4Ab7Cc1Zz2AbrZz1Db5Fa8Zz3AbbBa1Bb1Ca3Cc2Db4Ec3Fa1Fc1Ga3Ha1Ja1Na1ZzfAbiCa2Cc7",
  "Db1Ea4Eb1ZzfAb1lCa2Da1Db1CcfDb1Ea2Eb1Ec3Ab1cCa1Ea1Eb4Ec1Ha2Zz4Ab2jCa9CccAb6qCceAb1Ca1Ab3dCa1Cc1",
  "CauCc1gDa2DbbEacEc1FabGa7Ia4Ja1Ab11Ca2Pa3ZzmAbbZzlAb3vCckDa1Ab46CcaAb28Ca8Cc8AbkDa2Cc2Db1Ca1",
  "Ab2eCa2CccDb2CcaDa8DbbEb1Ec2Da2DbgEa1EbaEc3Eb4EcaFa1EcjFa1Ec1Fa4EcoGa1Ab4Fa1Ab4Fa2AbsFa1AbzFa1",
  "Ab1Fa1Ab4Fa3Ab1Ec1Ab7Fa2Ab7CceAbvFa3AboFa1AbeFa1Db7Ea4Fb1Eb1Fb1Fa2CcsEb4CcgCa74Cce8DaeDb6Ea7Eb5",
  "Ea4Eb15Ga3Eb5Ec5GaqZz2GawZz1Ma1GayKa3GacLa1Ga8Ja1KapHa4KafLa1Db1bNa1Db1bNa1EadEb3Ec1Eb3Ea4Eb6",
  "Ec2Db2zEc7Fb2Zz5Db19Zz1Fb1Zz5Fb1Zz2Db1iFb2Zz7Db1Fa1ZzeFa1DbnZz9Db7Zz1Db7Zz1Db7Zz1Db7Zz1Db7Zz1",
  "Db7Zz1Db7Zz1Db7Zz1EbwDboEb4Db2EbjEc1FbaGa7Ia2Ja5Ka5La1Ma3NabZzyCaqZz1Ca2hZzcCa5yZzqCacOb4Ab1k",
  "Ca3Cc3Ca1Ab1Zz1Ab2cCc2Zz2Ab6Cc2Ab2mCc1Zz5Ab14Eb1Ja1Ka1Zz1Ab2mZz1AbgCaoFa3Ma5DbgEbkPa2Zz9Ob1Ccg",
  "AbtDa2Zz1Ab10EccDa1CcfAbsDa2Db1Ab1eCcfAbcDa4Ab1bLb1Ab3bDa4Ab2rDa2AbvDa1Ca52uMaaDa1sAbg4mDbmEb8",
  "Ec8Fb1Ha9JalKa5MadNa3CawdZz3CaiCc2CagCc1CacCc1Ca3Cc1Ca1Zz9Ec1cEb8cZzkEbwFa2EbiFb8EbsGa6Ha1Fb1",
  "Ec2gZz8DbnEa4Eb5Ea2Eb2zFa2Ha1Fa2Fb2GacFaaFb1Ga3Ia1Ka1Ga2Ha6Ka2La6Na2La5Ma4Pa3Zz2Na2Zz1Na1Zz1Na5",
  "Pa3ZzlNa3Ma2Ga1Fb2Fa1Eb5Db18Ma1Zz3EcaZz6Ea1kZz8Eb1xIa1Zz8EbcZz6EcsHa2Ka2Eb2cZzbEb1EctZz3Ec26Zz1",
  "EcbZz4Ec2GavZz1Eb1jZz9EbeZz2EbaZz2Eb4EcsGa4Ec1vZzoEc5FbnZzaFa6Zz2Fa6Zz2Fa6Zz9Fa7Zz1Fa7Zz1Ga1c",
  "Ha4Ga2La2Ma4Zz4Ha28Ec1aZz2EcaZz6Ba8mcZzcEcnZz4Ec1dZz4Ba1kwAb566Fb2Cc1nEc3Zz2Db2yZz12Ab7ZzcAb5",
  "Zz5Ca1AbpZz1Ab5Zz1Ab1Zz1Ab2Zz1Ab2Zz1Ab30FagNa1ZzgAba5NagAb1sZz2Ab1iZz7Na1CbwAbcCc1Da1Na2CcgDba",
  "Zz6Ab4Eb3Ga7Ha2AblCc2Da2AbaZz1AbjZz1Ab4Zz4Ab3Cc1Ab1Zz1Ab3rZz2Ab1Zz1Ab2mCc2Ab2mZz3Ab6Zz2Ab6Zz2",
  "Ab6Zz2Ab3Zz3Ab7Zz1Ab7ZzaCa3Bb1Ab3DacZz1DaqZz1DajZz1Da2Zz1DafZz2DaeZzyDa3fZz5Da3Zz4Da19Zz3Da9",
  "Db23Ga2Ia2Zz1EbcMa1Zz3Ga1Zz1bEb1aZz3mEbtZz3Eb1dZzfGasZz4CbvGa1Cb4Zz9Ja3CbrZz5Ga17Zz5DauZz1Da1",
  "Db10Zz4DbeZz16Cb12Da2Cb12Da28Zz2DaaZz6Ia10Zz4Ia10Zz4Ga14Zz8Ga1gZzbGa1NabZz1NafZz1Na7Zz1Na2Zz1",
  "NabZz1NafZz1Na7Zz1Na2Zz3Pa1gZzcGa8nZz9GamZzaGa8ZzoNa6Zz1Na16Zz1Na9Zz1xDa6Zz2Da1Zz1Da18Zz1Da2Zz3",
  "Da1Zz2Da1EcmZz1Ec9Ga1rZz8Ga9Zz1cHajZz1Ha2Zz5Ha5EaqEc2Zz3Ea1EbqZz5Eb1Zz1sFb1kZz4Ha2Fb2HagZz2Ha1a",
  "Db4Zz1Db2Zz5Db8Zz1Db3Zz1DbrKa2Zz2Db3Zz4Db9Ka1Zz7Db9Zz7EcwGawZzwGa13Zz4GacZz9Ec1iZz3EctZz2EcrZz5",
  "Ec8GaiZz7Ga4ZzcGa7Zz28Ec21Zz1jHa1fZzdHa1fZz7Ha6Ka14Zz8KaaZz6Pa12Zz3PatZz8Pa2Zz5sEcvZz1Ma16Zz1",
  "Ma3Zz2Ma2ZzgPa3Zz1jPa1Oa3Ka14Zz8Ka16ZzmNaqZz12MasZzkLanZz9Fa26Zz4FauNa6Zz9Ga1Ec1uNa1ZzaKa1Zz2",
  "FbpZz7FbaZz6Fb1hZz1FbeKa3Ma1Zz8Ga13Zz9Fb21Ha4Ga1Ma2FbaGa1Ha5Zz1GakZzbGaiZz1Ga17Ia1Oa3Zz1qHa7Zz1",
  "Ha1Zz1Ha4Zz1HafZz1HabZz6Ga1nZz5GaaZz6Ha1Ga3Zz1Ga8Zz2Ga2Zz2GamZz1Ga7Zz1Ga2Zz1Ga5Zz1Ka1Ga9Zz2Ga2",
  "Zz2Ga3Zz2Ha1Zz6Ga1Zz5Ga7Zz2Ga7Zz3Ga5ZzbPaaZz1Pa1Zz2Pa1Zz1Pa12Zz1PaaZz1Pa1Zz2Pa1Zz1Pa4Zz1PaaZz1",
  "Pa2Zz8Pa2ZztIa2iMa1Ia1Zz1Ia1Ka1La1Ma2ZzuGa20Zz8GaaZz4mGa1iZz2GaiHakZzyGa1xZzbGaaZz6IadZzjFb1k",
  "La1Na1Zz6FbaZz6PakZzsHaqKa1Zz2HafZz4HagNa7Zz55Ka1oZz2sGa2bZzcGa1Ma7Zz2Ma1Zz2Ma8Zz1Ma2Zz1MauZz1",
  "Ma2Zz2MacZz9MaaZz1yLa8Zz2La1aZz2LabZzrJa20Zz8Ja1gLa2JanKa1Ja5ZzdNagGa1lZz7OaaZz52PayZzePaaZz6",
  "Ia9Zz1Ia19Zz1IaeZzaIatZz3IawZz2IamZz1IaeZz21Ja7Zz1Ja2Zz1Ja18Zz3Ja1Zz1Ja2Zz1Ja9Zz8JaaZz6Ka6Zz1",
  "Ka2Zz1Ka11Zz1Ka2Zz1Ka6Zz7KaaZz8mKapZz7OahZz1Oa15Zz3OasPa1Zz2dMa1ZzfLa1eZzdLa1EaofGa16Ha1Zz2u",
  "Ea2rGacZz1Ea4Ga1ZzbHa5gZz218Na2rZzdEctrOa1La9OatZzaPa32zZz5Hag7Zz5a1Pa1mZz1c6FaftZz7GavZz1Gaa",
  "Zz4Ga2Na27Zz1NaaZz6GauZz2Ga6ZzaGa1yZzaGaaZz1Ga7Zz1GalZz5GajZzc0Pa1mZz5iKa2jZz2tFb1xLa6Zz4La1",
  "Fb1bLa9Zz7FbhZz1sIa1Ja1La2Ma1ZzbMa2ZzeIa4q5Ka5La6Zz8IakzMadfZz15Pa1Ma9Zz6w7Na4Zz1Na7Zz1Na2Zz1",
  "Fa2Ja7xNa4ZzfOa1ZztLa3Zz2Oa1ZzeLa4Zz8Jab0Zz1s4Ga2zZz5GadZz3Ga9Zz7GaaZz2Ga8Zz318Pa6yZz6Pac4Zz24",
  "Na1aZz2NanZz9Na38Zz1oCb6uZzaCb13Zz2Eb1Cb50HabNa2ZzlDb1yZz3eOakZzcKakZzcDa2fZz9EaiKa7Zz3rCb2dZz1",
  "Cb1zZz1Cb2Zz2Cb1Zz2Cb2Zz2Cb4Zz1CbcZz1Cb1Zz1Cb4Da1Cb2Zz1Cb1tZz1Cb4Zz2Cb8Zz1Cb7Zz1CbsZz1Cb4Zz1Cb5",
  "Zz1Cb1Zz3Cb7Zz1Cb9eDb2Zz2Cb82Ea2Zz2Cb1eHai4ZzfHa5Zz1HafZzuoNavZz6Oa6Zz5xIa7Zz1IahZz2Ia7Zz1Ia2",
  "Zz1Ia5Zz5Oa1qZzxOa1Zz34La19Zz3LaeZz2LaaZz4La2Zz8wNavZzhLa1mZz5La1ZzcwOa16Zz5yPa17Zz4Pa1ZzdcNa7",
  "Zz1Na4Zz1Na2Zz1NafZz1Ga5hZz2GagZz15Ia23La1Zz4IaaZz4Ia2ZzltKa1wZz24La1pZz5eFb4Zz1FbrZz1Fb2Zz1Fb1",
  "Zz2Fb1Zz1FbaZz1Fb4Zz1Fb1Zz1Fb1Zz6Fb1Zz4Fb1Zz1Fb1Zz1Fb1Zz1Fb3Zz1Fb2Zz1Fb1Zz2Fb1Zz1Fb1Zz1Fb1Zz1",
  "Fb1Zz1Fb1Zz1Fb2Zz1Fb1Zz2Fb4Zz1Fb7Zz1Fb4Zz1Fb4Zz1Fb1Zz1FbaZz1FbhZz5Fb3Zz1Fb5Zz1FbhZz1gFb2Zz7i",
  "Eb18Zz4Eb2sZzcFafZz2FaeGa1Zz1FafZz1FafGamZzaEcbGa2Ma3EcvKa1Fa1Ec1FabEc1Fa1Ec1Fa2Ec1Fa3Ec1Fa3Ec5",
  "Fa8Ec1Fa7Ec1FaaFb2La1Ma3Fa9Ec1Fa1Ec2Fa2Ec1FaaEc4Fa2Ec1FaaIaiMa1Zz1kFaqEc1Fa2ZzdEcyFa9Ia1Zz4Ec9",
  "Zz7Fa2ZzeJa6Zz4aFaxGacHa3Fa6Ga1Fa1yGa1Ha2FakGacFa11Ga1Fa5Ga4Ha5GacFahGa7Ha8Fa1rGa1Fa1Ga1Fa52Ga1",
  "Fa4Ga2Ha1Fa1qGa2Fb4Ga7Ha5FaoGaiIa1Ga15Ia1Ga2eFa5Fb1FagFb1Fa3Fb1Fa1Fb1Fa1Fb1Fa1Fb1Fa3Fb1Fa6Fb2",
  "Fa4Fb1Fa1Fb2Fa4Fb1FacGa2Ha2FabGa1cFa1yGaaHa1Ia2Ja2La1Ma2Zz4Oa1Na3GadZz3Ga4Ia3Ja2Ka1La1Ma2Zz3",
  "Fa38Oa3Zz4Oa5Ga2dKa4Oa1Zz6LacZz4Na1ZzfGacZz4Ga1kZz8GaaZz6Ga14Zz8GauZz2Ma2PaaZz4Pa2Zz1qJacMa1La3",
  "Ha9Ia6Ja1Ia8Ja8Ia1Ja2IacLa1IacJa1Ka3IafJadKa5La1Ma1Ka4Ma2Na1Ka1La1Ka4Ha5IadJa6KabMa2La6Ma3La2",
  "KaaLa6Ha1Ka2La8Ma1Na1La3JanKapLa2cZzcKaeZz2La4Ma1Oa3La3Na2Zz3La3Ma4Oa2Pa1Zz5Pa1La6MajNa4Oa3Ma7",
  "Na4Oa3Pa1Oa1Ma3Na3Pa1Zz7Oa2Ma7Na3Oa2Pa1Zz2Pa1Na8Oa1Pa1Zz6Na7Oa2Zz7Ma43Zz1Ma1jPa11MaaZzskBa2",
  "CbwyfMa7Na2ZzwEc379Na4Oa1Zz6Fa66Zz2Ha4g2ZzeJa5rlZzfObhaZz1wiCbf2Zz15sBa2Ma3t7Zz5Oa38gZz17imBa2",
  "Zz1ekeBa2Zz1ekeBa2Zz1ekeBa2Zz1ekeBa2Zz1ekeBa2Zz1ekeBa2Zz1ekeBa2Zz1ekeBa2Zz1ekeBa2Zz1ekeBa2Zz1",
  "Cb1ZzuCb2oZz3kDa6oZz1e6mBa2t4y"]

def releaseRuns : List (String × Nat) := Text.readPartition [] 0 0 releaseText.toList

inductive Property where
  | category (letters : String)
  | listed (runs : List (Nat × Nat))
  | alphabetic
  | lowercase
  | uppercase
  | cased
  | caseIgnorable
  | graphemeExtend
  | word
  | digit
  | blank
  | changedByLower
  | changedByUpper
  | since (release : String)
  deriving DecidableEq, Repr

def Property.holds (p : Property) (c : Char) : Bool :=
  match p with
  | category letters => (Text.categoryOf c).startsWith letters
  | listed runs => Text.inRuns runs c
  | alphabetic => Text.isAlphabetic c
  | lowercase => Text.isLowercase c
  | uppercase => Text.isUppercase c
  | cased => Text.isCased c
  | caseIgnorable => Text.isCaseIgnorable c
  | graphemeExtend => Text.isGraphemeExtend c
  | word => Text.isWord c
  | digit => Text.isDecimalDigit c
  | blank => Text.isBlank c
  | changedByLower => Text.lowerChars [] [c] != [c]
  | changedByUpper => Text.upperChars c != [c]
  | since release => (Text.labelIn releaseRuns c).any (· ≤ release)

end Accord.Pattern
